import Mathlib.Tactic.ByContra
import Mathlib.Tactic.SplitIfs
import RvEmulator.Devices.GoldfishRtc

/-! The time of the clock: no step of its computation overflows, and what is read is what was
set, plus what the host clock went on. -/

namespace RvEmulator.Devices.GoldfishRtc

open Library Platform

/-! ### Arithmetic -/

/-- A word with a value of its own, unlike those that stand for a negative one. -/
theorem toInt_eq_toNat {word : BitVec 64} (nonneg : 0 ≤ word.toInt) :
    word.toInt = word.toNat := by
  rw [BitVec.toInt_eq_toNat_cond] at nonneg ⊢
  have bounded := word.isLt
  split <;> omega

theorem toNat_lt_of_nonneg {word : BitVec 64} (nonneg : 0 ≤ word.toInt) : word.toNat < 2 ^ 63 := by
  have same := toInt_eq_toNat nonneg
  have above := BitVec.two_mul_toInt_lt (x := word)
  omega

theorem toInt_of_small {word : BitVec 64} (small : word.toNat < 2 ^ 63) :
    word.toInt = word.toNat := by
  rw [BitVec.toInt_eq_toNat_cond]
  split <;> omega

/-- `set_time` does not overflow, whatever is written. -/
theorem offsetWith_eq [Monad m] [LawfulMonad m] {signed : SignedArithmetic 64 m}
    (lawful : signed.Lawful) {host : BitVec 64} (nonneg : 0 ≤ host.toInt) (nanoseconds : BitVec 64) :
    offsetWith signed host nanoseconds = pure (Id.run (offsetWith .wrapping host nanoseconds)) := by
  unfold offsetWith
  dsimp only
  split
  · rfl
  rename_i within
  have small : nanoseconds.toNat < 2 ^ 63 := by
    rw [BitVec.lt_def, BitVec.toNat_intMax] at within
    omega
  have desired : 0 ≤ nanoseconds.toInt := by
    rw [toInt_of_small small]
    omega
  split
  · exact lawful.sub (ssubOverflow_of_nonneg desired nonneg)
  · rename_i behind
    have exactly := ssubOverflow_of_nonneg nonneg desired
    have difference := BitVec.toInt_sub_of_not_ssubOverflow (ne_true_of_eq_false exactly)
    have ahead : (host - nanoseconds).negOverflow = false := by
      rw [BitVec.negOverflow, beq_eq_false_iff_ne, difference]
      omega
    rw [lawful.sub exactly, pure_bind, lawful.neg ahead]
    rfl

/-- The offset of a time that is not in the last half of the values. -/
theorem toInt_offset {host nanoseconds : BitVec 64} (nonneg : 0 ≤ host.toInt)
    (small : nanoseconds.toNat < 2 ^ 63) :
    (Id.run (offsetWith .wrapping host nanoseconds)).toInt = nanoseconds.toNat - host.toNat := by
  have same := toInt_of_small small
  have hosted := toInt_eq_toNat nonneg
  have desired : 0 ≤ nanoseconds.toInt := by omega
  have within : ¬BitVec.intMax 64 < nanoseconds := by
    rw [BitVec.lt_def, BitVec.toNat_intMax]
    omega
  unfold offsetWith
  dsimp only
  rw [if_neg within]
  split
  · have difference := BitVec.toInt_sub_of_not_ssubOverflow
      (ne_true_of_eq_false (ssubOverflow_of_nonneg desired nonneg))
    exact difference.trans (by rw [same, hosted])
  · rename_i behind
    have difference := BitVec.toInt_sub_of_not_ssubOverflow
      (ne_true_of_eq_false (ssubOverflow_of_nonneg nonneg desired))
    have ahead : ¬(host - nanoseconds).negOverflow = true := by
      rw [BitVec.negOverflow, beq_iff_eq, difference]
      omega
    exact (BitVec.toInt_neg_of_not_negOverflow ahead).trans (by rw [difference]; omega)

/-- The words between a negative offset and its magnitude. -/
structure Negated (offset : BitVec 64) : Prop where
  raised : offset.saddOverflow 1 = false
  negated : (offset + 1).negOverflow = false
  magnitude : (-(offset + 1)).toNat + (1 : BitVec 64).toNat < 2 ^ 64
  toNat : ((-(offset + 1) + 1).toNat : Int) = -offset.toInt

theorem negated_of_neg {offset : BitVec 64} (negative : offset.toInt < 0) : Negated offset := by
  have least := BitVec.le_two_mul_toInt (x := offset)
  have unit : (1 : BitVec 64).toInt = 1 := rfl
  have one : (1 : BitVec 64).toNat = 1 := rfl
  have raised : offset.saddOverflow 1 = false := by
    rw [BitVec.saddOverflow, Bool.or_eq_false_iff, decide_eq_false_iff_not, decide_eq_false_iff_not,
      unit]
    omega
  have sum := BitVec.toInt_add_of_not_saddOverflow (ne_true_of_eq_false raised)
  rw [unit] at sum
  have negated : (offset + 1).negOverflow = false := by
    rw [BitVec.negOverflow, beq_eq_false_iff_ne, sum]
    omega
  have opposite := BitVec.toInt_neg_of_not_negOverflow (ne_true_of_eq_false negated)
  have value : (-(offset + 1)).toInt = (-(offset + 1)).toNat := toInt_eq_toNat (by omega)
  have magnitude : (-(offset + 1)).toNat + (1 : BitVec 64).toNat < 2 ^ 64 := by omega
  refine ⟨raised, negated, magnitude, ?_⟩
  rw [BitVec.toNat_add_of_lt magnitude, one]
  omega

/-- `time_nanoseconds` does not overflow and does not wrap around, whatever the offset is. -/
theorem timeNanosecondsWith_eq [Monad m] [LawfulMonad m] {signed : SignedArithmetic 64 m}
    {unsigned : Arithmetic 64 m} (lawful : signed.Lawful) (exactly : unsigned.Lawful)
    (rtc : GoldfishRtc) (host : BitVec 64) :
    rtc.timeNanosecondsWith signed unsigned host = pure (rtc.timeNanoseconds host) := by
  have most : (BitVec.allOnes 64).toNat = 2 ^ 64 - 1 := BitVec.toNat_allOnes
  have bounded := rtc.hostTimeOffsetNs.isLt
  unfold timeNanoseconds timeNanosecondsWith
  dsimp only
  by_cases positive : 0 ≤ rtc.hostTimeOffsetNs.toInt
  · have fits : rtc.hostTimeOffsetNs.toNat ≤ (BitVec.allOnes 64).toNat := by omega
    have limit := BitVec.toNat_sub_of_le (BitVec.le_def.mpr fits)
    rw [if_pos positive, if_pos positive, exactly.sub fits, pure_bind,
      Arithmetic.wrapping_sub]
    split
    · rfl
    · rename_i within
      rw [BitVec.lt_def, limit] at within
      exact exactly.add (by omega)
  · have words := negated_of_neg (Int.lt_of_not_ge positive)
    rw [if_neg positive, if_neg positive, lawful.add words.raised, pure_bind,
      lawful.neg words.negated, pure_bind, exactly.add words.magnitude, pure_bind]
    change _ = pure (Id.run (if host < -(rtc.hostTimeOffsetNs + 1) + 1 then pure 0
      else Arithmetic.wrapping.sub host (-(rtc.hostTimeOffsetNs + 1) + 1)))
    split
    · rfl
    · rename_i within
      exact exactly.sub (Nat.le_of_not_lt (BitVec.lt_def.not.mp within))

/-- The time is the sum of the offset and the time of the host, up to the limits of 64 bits. -/
theorem toNat_timeNanoseconds (rtc : GoldfishRtc) (host : BitVec 64) :
    ((rtc.timeNanoseconds host).toNat : Int) =
      max 0 (min (2 ^ 64 - 1) (rtc.hostTimeOffsetNs.toInt + host.toNat)) := by
  have most : (BitVec.allOnes 64).toNat = 2 ^ 64 - 1 := BitVec.toNat_allOnes
  have bounded := rtc.hostTimeOffsetNs.isLt
  have hosted := host.isLt
  unfold timeNanoseconds timeNanosecondsWith
  dsimp only
  by_cases positive : 0 ≤ rtc.hostTimeOffsetNs.toInt
  · have same := toInt_eq_toNat positive
    have fits : rtc.hostTimeOffsetNs.toNat ≤ (BitVec.allOnes 64).toNat := by omega
    have limit := BitVec.toNat_sub_of_le (BitVec.le_def.mpr fits)
    rw [if_pos positive, Arithmetic.wrapping_sub]
    split
    · rename_i beyond
      rw [BitVec.lt_def, limit] at beyond
      change ((BitVec.allOnes 64).toNat : Int) = _
      omega
    · rename_i within
      rw [BitVec.lt_def, limit] at within
      change ((host + rtc.hostTimeOffsetNs).toNat : Int) = _
      rw [BitVec.toNat_add_of_lt (by omega)]
      omega
  · have words := negated_of_neg (Int.lt_of_not_ge positive)
    have magnitude := words.toNat
    rw [if_neg positive]
    change ((Id.run (if host < -(rtc.hostTimeOffsetNs + 1) + 1 then pure 0
      else Arithmetic.wrapping.sub host (-(rtc.hostTimeOffsetNs + 1) + 1))).toNat : Int) = _
    split
    · rename_i early
      rw [BitVec.lt_def] at early
      change (0 : Int) = _
      omega
    · rename_i late
      have below := Nat.le_of_not_lt (BitVec.lt_def.not.mp late)
      change ((host - (-(rtc.hostTimeOffsetNs + 1) + 1)).toNat : Int) = _
      rw [BitVec.toNat_sub_of_le (BitVec.le_def.mpr below)]
      omega

/-! ### Runs -/

variable {rtc : GoldfishRtc}

theorem run_append (rtc : GoldfishRtc) (events others : List Event) :
    rtc.run (events ++ others) = (rtc.run events).run others := List.foldl_append

theorem run_cons (rtc : GoldfishRtc) (event : Event) (events : List Event) :
    rtc.run (event :: events) = (rtc.next event).run events := rfl

/-- A value that events keep is kept by runs of them. -/
theorem run_keeps {α : Type} (value : GoldfishRtc → α) {events : List Event}
    (keeps : ∀ event ∈ events, ∀ rtc, value (next rtc event) = value rtc) (rtc : GoldfishRtc) :
    value (rtc.run events) = value rtc := by
  induction events generalizing rtc with
  | nil => rfl
  | cons event events ih =>
    rw [run_cons, ih fun later member => keeps later (List.mem_cons_of_mem _ member),
      keeps event List.mem_cons_self]

/-- What an event does, apart from reads of the time and writes of words. -/
theorem next_cases (rtc : GoldfishRtc) (event : Event) :
    (∃ offset value, event.operation = .write offset .word value ∧ offset &&& 3 = 0 ∧
      next rtc event = writeRegister event.host offset (value.setWidth 32) rtc) ∨
    (event.operation = .read Register.timeLow .word ∧
      next rtc event =
        { rtc with latchedTimeHigh := (rtc.timeNanoseconds event.host >>> 32).setWidth 32 }) ∨
    (event.operation = .tick ∧ next rtc event = tick event.host rtc) ∨
    next rtc event = rtc := by
  obtain ⟨host, operation⟩ := event
  cases operation with
  | tick => exact .inr (.inr (.inl ⟨rfl, rfl⟩))
  | write offset width value =>
    by_cases refused : Unsupported offset width
    · refine .inr (.inr (.inr ?_))
      simp only [next, write, if_pos refused]
    · have supported : width = .word ∧ offset &&& 3 = 0 := by
        simpa only [Unsupported, not_or, not_not] using refused
      obtain ⟨rfl, aligned⟩ := supported
      refine .inl ⟨offset, value, rfl, aligned, ?_⟩
      simp only [next, write, if_neg refused]
  | read offset width =>
    by_cases refused : Unsupported offset width
    · refine .inr (.inr (.inr ?_))
      simp only [next, read, if_pos refused]
    · have supported : width = .word ∧ offset &&& 3 = 0 := by
        simpa only [Unsupported, not_or, not_not] using refused
      obtain ⟨rfl, aligned⟩ := supported
      by_cases low : offset = Register.timeLow
      · subst low
        exact .inr (.inl ⟨rfl, rfl⟩)
      · refine .inr (.inr (.inr ?_))
        simp only [next, read, if_neg refused, if_neg low]
        split_ifs <;> rfl

/-- Whether an event writes a word to a register. -/
def Event.WritesTo (event : Event) (offset : BitVec 64) : Prop :=
  event.Writes offset fun _ => True

/-- A value that only writes to one register change. -/
theorem next_keeps {α : Type} {event : Event} {register : BitVec 64} (value : GoldfishRtc → α)
    (other : ¬event.WritesTo register)
    (written : ∀ host offset word rtc, offset ≠ register →
      value (writeRegister host offset word rtc) = value rtc)
    (latched : ∀ rtc half, value { rtc with latchedTimeHigh := half } = value rtc)
    (ticked : ∀ host rtc, value (tick host rtc) = value rtc) (rtc : GoldfishRtc) :
    value (next rtc event) = value rtc := by
  obtain ⟨offset, word, is, _, same⟩ | ⟨_, same⟩ | ⟨_, same⟩ | same := next_cases rtc event
  · have elsewhere : offset ≠ register := by
      rintro rfl
      exact other ⟨word, is, trivial⟩
    rw [same, written _ _ _ _ elsewhere]
  · rw [same, latched]
  · rw [same, ticked]
  · rw [same]

theorem next_hostTimeOffset {event : Event} (other : ¬event.WritesTo Register.timeLow)
    (rtc : GoldfishRtc) : (next rtc event).hostTimeOffsetNs = rtc.hostTimeOffsetNs := by
  refine next_keeps hostTimeOffsetNs other ?_ (fun _ _ => rfl) ?_ rtc
  · intro host offset word rtc elsewhere
    unfold writeRegister
    rw [if_neg elsewhere]
    split_ifs <;> rfl
  · intro host rtc
    unfold tick
    split <;> rfl

theorem next_pendingTimeHigh {event : Event} (other : ¬event.WritesTo Register.timeHigh)
    (rtc : GoldfishRtc) : (next rtc event).pendingTimeHigh = rtc.pendingTimeHigh := by
  refine next_keeps pendingTimeHigh other ?_ (fun _ _ => rfl) ?_ rtc
  · intro host offset word rtc elsewhere
    unfold writeRegister
    rw [if_neg elsewhere]
    split_ifs <;> rfl
  · intro host rtc
    unfold tick
    split <;> rfl

theorem next_latchedTimeHigh {event : Event} (other : event.operation ≠ .read Register.timeLow .word)
    (rtc : GoldfishRtc) : (next rtc event).latchedTimeHigh = rtc.latchedTimeHigh := by
  obtain ⟨offset, value, _, _, same⟩ | ⟨is, _⟩ | ⟨_, same⟩ | same := next_cases rtc event
  · rw [same]
    unfold writeRegister
    split_ifs <;> rfl
  · exact absurd is other
  · rw [same]
    unfold tick
    split <;> rfl
  · rw [same]

/-! ### Setting and reading the time -/

theorem read_timeLow (rtc : GoldfishRtc) (host : BitVec 64) :
    read host Register.timeLow .word rtc =
      ({ value := ((rtc.timeNanoseconds host).setWidth 32).setWidth 64 },
        { rtc with latchedTimeHigh := (rtc.timeNanoseconds host >>> 32).setWidth 32 }) := rfl

theorem read_timeHigh (rtc : GoldfishRtc) (host : BitVec 64) :
    read host Register.timeHigh .word rtc = ({ value := rtc.latchedTimeHigh.setWidth 64 }, rtc) :=
  rfl

theorem next_timeHigh {event : Event} {high : BitVec 32}
    (writes : event.Writes Register.timeHigh (· = high)) (rtc : GoldfishRtc) :
    next rtc event = { rtc with pendingTimeHigh := high } := by
  obtain ⟨host, operation⟩ := event
  obtain ⟨value, is, rfl⟩ := writes
  cases is
  rfl

theorem next_timeLow {event : Event} {low : BitVec 32}
    (writes : event.Writes Register.timeLow (· = low)) (rtc : GoldfishRtc) :
    next rtc event = rtc.setTime event.host (joined rtc.pendingTimeHigh low) := by
  obtain ⟨host, operation⟩ := event
  obtain ⟨value, is, rfl⟩ := writes
  cases is
  rfl

/-- The two words of a value are its halves. -/
theorem joined_halves (value : BitVec 64) :
    joined ((value >>> 32).setWidth 32) (value.setWidth 32) = value := by
  unfold joined
  ext index bounded
  simp only [BitVec.getElem_or, BitVec.getElem_shiftLeft, BitVec.getElem_setWidth,
    BitVec.getLsbD_setWidth, BitVec.getLsbD_ushiftRight]
  by_cases low : index < 32
  · simp [low, bounded]
  · have above : 32 + (index - 32) = index := by omega
    have inside : index - 32 < 32 := by omega
    simp [low, above, inside, bounded]

theorem toNat_halves (value : BitVec 64) :
    (((value >>> 32).setWidth 32).setWidth 64).toNat * 2 ^ 32 +
      ((value.setWidth 32).setWidth 64).toNat = value.toNat := by
  have bounded := value.isLt
  simp only [BitVec.toNat_setWidth, BitVec.toNat_ushiftRight, Nat.shiftRight_eq_div_pow]
  omega

/-- A time that is set is read as a time that went on with the host clock. -/
theorem toNat_timeNanoseconds_setTime {host later nanoseconds : BitVec 64}
    (nonneg : 0 ≤ host.toInt) (onward : host.toInt ≤ later.toInt)
    (small : nanoseconds.toNat < 2 ^ 63)
    (set : rtc.hostTimeOffsetNs = Id.run (offsetWith .wrapping host nanoseconds)) :
    (rtc.timeNanoseconds later).toNat = nanoseconds.toNat + (later.toNat - host.toNat) := by
  have sum := toNat_timeNanoseconds rtc later
  have offset := toInt_offset nonneg small
  have hosted := toInt_eq_toNat nonneg
  have latered := toInt_eq_toNat (Int.le_trans nonneg onward)
  have bounded := toNat_lt_of_nonneg (Int.le_trans nonneg onward)
  rw [set, offset] at sum
  omega

/-- Nothing overflows, and the time that is read is the time that was set and what the host
clock went on since, in one piece. -/
theorem time_exact :
    (∀ (rtc : GoldfishRtc) (host nanoseconds : BitVec 64), 0 ≤ host.toInt →
      offsetWith .checked host nanoseconds =
        some (rtc.setTime host nanoseconds).hostTimeOffsetNs) ∧
    (∀ (rtc : GoldfishRtc) (host : BitVec 64),
      rtc.timeNanosecondsWith .checked .checked host = some (rtc.timeNanoseconds host)) ∧
    ∀ (rtc : GoldfishRtc) (nanoseconds : BitVec 64) (setHigh setLow : Event)
      (before between after : List Event) (readAt lastAt : BitVec 64),
      nanoseconds.toNat ≤ 2 ^ 63 - 1 →
      setHigh.Writes Register.timeHigh (· = (nanoseconds >>> 32).setWidth 32) →
      (∀ event ∈ before, ¬event.WritesTo Register.timeHigh) →
      setLow.Writes Register.timeLow (· = nanoseconds.setWidth 32) →
      (∀ event ∈ between, ¬event.WritesTo Register.timeLow) →
      (∀ event ∈ after, event.operation ≠ .read Register.timeLow .word) →
      0 ≤ setLow.host.toInt → setLow.host.toInt ≤ readAt.toInt →
      ((read lastAt Register.timeHigh .word
          (((read readAt Register.timeLow .word
            (rtc.run (setHigh :: before ++ setLow :: between))).2).run after)).1.value.toNat *
          2 ^ 32 +
        (read readAt Register.timeLow .word
          (rtc.run (setHigh :: before ++ setLow :: between))).1.value.toNat =
        nanoseconds.toNat + (readAt.toNat - setLow.host.toNat)) := by
  refine ⟨fun rtc host nanoseconds nonneg => ?_, fun rtc host => ?_, ?_⟩
  · exact offsetWith_eq SignedArithmetic.lawful_checked nonneg nanoseconds
  · exact timeNanosecondsWith_eq SignedArithmetic.lawful_checked Arithmetic.lawful_checked rtc host
  · intro rtc nanoseconds setHigh setLow before between after readAt lastAt small high noHigh low
      noLow noRead nonneg onward
    have pending : ((rtc.run (setHigh :: before))).pendingTimeHigh =
        (nanoseconds >>> 32).setWidth 32 := by
      rw [run_cons, run_keeps pendingTimeHigh (fun event member =>
        next_pendingTimeHigh (noHigh event member)), next_timeHigh high]
    have offset : (rtc.run (setHigh :: before ++ setLow :: between)).hostTimeOffsetNs =
        Id.run (offsetWith .wrapping setLow.host nanoseconds) := by
      rw [run_append, run_cons, run_keeps hostTimeOffsetNs (fun event member =>
        next_hostTimeOffset (noLow event member)), next_timeLow low, pending, joined_halves]
      rfl
    have kept := run_keeps latchedTimeHigh (fun event member =>
      next_latchedTimeHigh (noRead event member))
    rw [read_timeHigh, kept, read_timeLow]
    exact (toNat_halves _).trans
      (toNat_timeNanoseconds_setTime nonneg onward (by omega) offset)

/-- The largest time below the last half, read `2 ^ 32` nanoseconds later, with a write of
`TIME_HIGH` between the two. -/
theorem time_exact_sample :
    ((read 20 Register.timeHigh .word (((read 0x100000007 Register.timeLow .word
        (run {} ([⟨5, .write Register.timeHigh .word 0x7FFFFFFF⟩] ++
          [⟨7, .write Register.timeLow .word 0xFFFFFFFF⟩,
            ⟨8, .write Register.timeHigh .word 3⟩]))).2).run
          [⟨9, .tick⟩])).1.value.toNat * 2 ^ 32 +
      (read 0x100000007 Register.timeLow .word
        (run {} ([⟨5, .write Register.timeHigh .word 0x7FFFFFFF⟩] ++
          [⟨7, .write Register.timeLow .word 0xFFFFFFFF⟩,
            ⟨8, .write Register.timeHigh .word 3⟩]))).1.value.toNat) =
      2 ^ 63 - 1 + 2 ^ 32 := by
  refine time_exact.2.2 {} 0x7FFFFFFFFFFFFFFF ⟨5, .write Register.timeHigh .word 0x7FFFFFFF⟩
    ⟨7, .write Register.timeLow .word 0xFFFFFFFF⟩ [] [⟨8, .write Register.timeHigh .word 3⟩]
    [⟨9, .tick⟩] 0x100000007 20 (by decide) ⟨_, rfl, rfl⟩ (List.forall_mem_nil _)
    ⟨_, rfl, rfl⟩ ?_ ?_ (by decide) (by decide)
  · intro event member
    obtain rfl := List.mem_singleton.mp member
    rintro ⟨value, is, _⟩
    cases is
  · intro event member
    obtain rfl := List.mem_singleton.mp member
    simp

end RvEmulator.Devices.GoldfishRtc
