import RvEmulator.Devices.RtcTime

/-! The alarm of the clock. A tick that finds the time of the alarm reached makes the interrupt
pending only while the interrupt is enabled, and uses the alarm up. -/

namespace RvEmulator.Devices.GoldfishRtc

open Library Platform

variable {rtc : GoldfishRtc} {event : Event} {alarm : BitVec 64}

/-- Neither a clear of the alarm, nor one of the interrupt, nor a new alarm. -/
structure Event.Undisturbed (event : Event) : Prop where
  clearAlarm : ¬event.Writes Register.clearAlarm (· ≠ 0)
  clearInterrupt : ¬event.Writes Register.clearInterrupt (· ≠ 0)
  alarmLow : ¬event.WritesTo Register.alarmLow

def Event.Disables (event : Event) : Prop := event.Writes Register.irqEnabled (· = 0)

/-- An alarm that is set and that no tick has used. -/
structure Waiting (alarm : BitVec 64) (rtc : GoldfishRtc) : Prop where
  active : rtc.alarmActive = true
  time : rtc.alarmTimeNs = alarm

/-! ### What an event does to an alarm -/

theorem tick_of_early (early : rtc.timeNanoseconds host < rtc.alarmTimeNs) :
    tick host rtc = rtc := by
  have notDue : ¬(rtc.alarmActive = true ∧ rtc.alarmTimeNs ≤ rtc.timeNanoseconds host) :=
    fun due => absurd (BitVec.lt_def.mp early) (Nat.not_lt.mpr (BitVec.le_def.mp due.2))
  exact if_neg notDue

theorem tick_of_inactive (inactive : rtc.alarmActive = false) : tick host rtc = rtc := by
  have notDue : ¬(rtc.alarmActive = true ∧ rtc.alarmTimeNs ≤ rtc.timeNanoseconds host) :=
    fun due => absurd due.1 (by simp [inactive])
  exact if_neg notDue

theorem tick_of_due (waiting : Waiting alarm rtc) (reached : alarm ≤ rtc.timeNanoseconds host) :
    tick host rtc = { rtc with alarmActive := false, interruptPending := rtc.irqEnabled } :=
  if_pos ⟨waiting.active, waiting.time ▸ reached⟩

/-- What a write that does not disturb the alarm leaves. -/
structure Kept (rtc : GoldfishRtc) (event : Event) (after : GoldfishRtc) : Prop where
  alarmActive : after.alarmActive = rtc.alarmActive
  alarmTimeNs : after.alarmTimeNs = rtc.alarmTimeNs
  interruptPending :
    after.interruptPending = true ↔ rtc.interruptPending = true ∧ ¬event.Disables

theorem Kept.refl (harmless : ¬event.Disables) : Kept rtc event rtc :=
  ⟨rfl, rfl, by simp [harmless]⟩

theorem Event.not_writes_of_ne (is : event.operation = .write offset .word value)
    (other : offset ≠ register) : ¬event.Writes register holds := by
  rintro ⟨written, same, _⟩
  rw [is] at same
  injection same with offsets
  exact other offsets

theorem Event.not_writes_of_tick (is : event.operation = .tick) :
    ¬event.Writes register holds := by
  rintro ⟨written, same, _⟩
  rw [is] at same
  cases same

theorem Event.writes_iff (is : event.operation = .write offset .word value) :
    event.Writes offset holds ↔ holds (value.setWidth 32) := by
  constructor
  · rintro ⟨written, same, held⟩
    rw [is] at same
    injection same with _ _ values
    exact values ▸ held
  · exact fun held => ⟨value, is, held⟩

theorem writeRegister_kept (quiet : event.Undisturbed)
    (is : event.operation = .write offset .word value) :
    Kept rtc event (writeRegister host offset (value.setWidth 32) rtc) := by
  by_cases enable : offset = Register.irqEnabled
  · subst enable
    have disables : event.Disables ↔ value.setWidth 32 = 0 := Event.writes_iff is
    have written : writeRegister host Register.irqEnabled (value.setWidth 32) rtc =
        { rtc with
          irqEnabled := value.setWidth 32 != 0
          interruptPending := if value.setWidth 32 = 0 then false else rtc.interruptPending } :=
      rfl
    refine ⟨rfl, rfl, ?_⟩
    rw [written, disables]
    by_cases zero : value.setWidth 32 = 0
    · simp [zero]
    · simp only [if_neg zero]
      exact ⟨fun pending => ⟨pending, zero⟩, And.left⟩
  have harmless : ¬event.Disables := Event.not_writes_of_ne is enable
  have unset : offset ≠ Register.alarmLow := by
    rintro rfl
    exact quiet.alarmLow ⟨value, is, trivial⟩
  unfold writeRegister
  rw [if_neg unset, if_neg enable]
  split_ifs with timeHigh timeLow alarmHigh clearAlarm zero clearInterrupt zero
  · exact ⟨rfl, rfl, (Kept.refl harmless).interruptPending⟩
  · exact ⟨rfl, rfl, (Kept.refl harmless).interruptPending⟩
  · exact ⟨rfl, rfl, (Kept.refl harmless).interruptPending⟩
  · exact Kept.refl harmless
  · subst clearAlarm
    exact absurd ⟨value, is, zero⟩ quiet.clearAlarm
  · exact Kept.refl harmless
  · subst clearInterrupt
    exact absurd ⟨value, is, zero⟩ quiet.clearInterrupt
  · exact Kept.refl harmless

theorem next_disables {value : BitVec 64}
    (is : event.operation = .write Register.irqEnabled .word value) :
    next rtc event = writeRegister event.host Register.irqEnabled (value.setWidth 32) rtc := by
  obtain ⟨host, operation⟩ := event
  cases is
  rfl

/-- What an event does to the alarm that is not one of those, and not a tick that is due. -/
theorem next_kept (quiet : event.Undisturbed)
    (ticks : event.operation = .tick → tick event.host rtc = rtc) :
    Kept rtc event (next rtc event) := by
  by_cases disables : event.Disables
  · obtain ⟨value, is, _⟩ := disables
    exact next_disables is ▸ writeRegister_kept quiet is
  obtain ⟨offset, value, is, _, same⟩ | ⟨_, same⟩ | ⟨is, same⟩ | same := next_cases rtc event
  · exact same ▸ writeRegister_kept quiet is
  · rw [same]
    exact ⟨rfl, rfl, (Kept.refl disables).interruptPending⟩
  · rw [same, ticks is]
    exact Kept.refl disables
  · rw [same]
    exact Kept.refl disables

/-! ### Before and after the tick -/

theorem Waiting.next (waiting : Waiting alarm rtc) (quiet : event.Undisturbed)
    (early : event.operation = .tick → rtc.timeNanoseconds event.host < alarm) :
    Waiting alarm (rtc.next event) := by
  have kept : Kept rtc event (rtc.next event) :=
    next_kept quiet fun is => tick_of_early (waiting.time.symm ▸ early is)
  exact ⟨kept.alarmActive.trans waiting.active, kept.alarmTimeNs.trans waiting.time⟩

/-- An alarm waits for as long as no tick finds it due. -/
theorem Waiting.run {events : List Event} (waiting : Waiting alarm rtc)
    (quiet : ∀ event ∈ events, event.Undisturbed)
    (early : ∀ first event rest, events = first ++ event :: rest → event.operation = .tick →
      (rtc.run first).timeNanoseconds event.host < alarm) :
    Waiting alarm (rtc.run events) := by
  induction events generalizing rtc with
  | nil => exact waiting
  | cons event events ih =>
    rw [run_cons]
    refine ih (waiting.next (quiet event List.mem_cons_self) (early [] event events rfl))
      (fun later member => quiet later (List.mem_cons_of_mem _ member)) ?_
    intro first later rest split is
    exact early (event :: first) later rest (by rw [split, List.cons_append]) is

/-- Once the alarm is used up, only a disable changes whether the interrupt is pending. -/
theorem run_used {events : List Event} (used : rtc.alarmActive = false)
    (quiet : ∀ event ∈ events, event.Undisturbed) :
    (rtc.run events).interruptPending = true ↔
      rtc.interruptPending = true ∧ ∀ event ∈ events, ¬event.Disables := by
  induction events generalizing rtc with
  | nil => simp [run]
  | cons event events ih =>
    have kept : Kept rtc event (rtc.next event) :=
      next_kept (quiet event List.mem_cons_self) fun _ => tick_of_inactive used
    rw [run_cons, ih (kept.alarmActive.trans used)
      (fun later member => quiet later (List.mem_cons_of_mem _ member)), kept.interruptPending,
      List.forall_mem_cons, and_assoc]

theorem waiting_alarmLow {setLow : Event}
    (low : setLow.Writes Register.alarmLow (· = alarm.setWidth 32))
    (high : rtc.pendingAlarmHigh = (alarm >>> 32).setWidth 32) :
    Waiting alarm (rtc.next setLow) := by
  obtain ⟨host, operation⟩ := setLow
  obtain ⟨value, is, word⟩ := low
  cases is
  refine ⟨rfl, ?_⟩
  change joined rtc.pendingAlarmHigh (value.setWidth 32) = alarm
  rw [high, word, joined_halves]

theorem next_pendingAlarmHigh (other : ¬event.WritesTo Register.alarmHigh) (rtc : GoldfishRtc) :
    (rtc.next event).pendingAlarmHigh = rtc.pendingAlarmHigh := by
  refine next_keeps pendingAlarmHigh other ?_ (fun _ _ => rfl) ?_ rtc
  · intro host offset word rtc elsewhere
    unfold writeRegister
    rw [if_neg elsewhere]
    split_ifs <;> rfl
  · intro host rtc
    unfold tick
    split <;> rfl

theorem next_alarmHigh {high : BitVec 32} (writes : event.Writes Register.alarmHigh (· = high))
    (rtc : GoldfishRtc) : (rtc.next event).pendingAlarmHigh = high := by
  obtain ⟨host, operation⟩ := event
  obtain ⟨value, is, rfl⟩ := writes
  cases is
  rfl

/-! ### Alarms -/

/-- After the first tick that finds an alarm due, the interrupt is pending exactly if it was
enabled at that tick and has not been disabled since. -/
theorem alarm_pending_iff (rtc : GoldfishRtc) (alarm : BitVec 64) (setHigh setLow due : Event)
    (between before after : List Event)
    (high : setHigh.Writes Register.alarmHigh (· = (alarm >>> 32).setWidth 32))
    (noHigh : ∀ event ∈ between, ¬event.WritesTo Register.alarmHigh)
    (low : setLow.Writes Register.alarmLow (· = alarm.setWidth 32))
    (quiet : ∀ event ∈ before ++ due :: after, event.Undisturbed)
    (ticks : due.operation = .tick)
    (reached : alarm ≤
      (rtc.run (setHigh :: between ++ setLow :: before)).timeNanoseconds due.host)
    (first : ∀ early event late, before = early ++ event :: late → event.operation = .tick →
      (rtc.run (setHigh :: between ++ setLow :: early)).timeNanoseconds event.host < alarm) :
    (rtc.run (setHigh :: between ++ setLow :: before ++ due :: after)).interruptPending = true ↔
      (rtc.run (setHigh :: between ++ setLow :: before)).irqEnabled = true ∧
        ∀ event ∈ after, ¬event.Writes Register.irqEnabled (· = 0) := by
  have half : (rtc.run (setHigh :: between)).pendingAlarmHigh = (alarm >>> 32).setWidth 32 := by
    rw [run_cons, run_keeps pendingAlarmHigh fun event member =>
      next_pendingAlarmHigh (noHigh event member), next_alarmHigh high]
  have armed := waiting_alarmLow low half
  have waiting : Waiting alarm (rtc.run (setHigh :: between ++ setLow :: before)) := by
    rw [run_append, run_cons]
    refine armed.run (fun event member => quiet event (List.mem_append_left _ member)) ?_
    intro early event late split is
    have notDue := first early event late split is
    rwa [run_append, run_cons] at notDue
  have fired := tick_of_due waiting reached
  have tick : next (rtc.run (setHigh :: between ++ setLow :: before)) due =
      tick due.host (rtc.run (setHigh :: between ++ setLow :: before)) := by
    rw [next, ticks]
  have later : ∀ event ∈ after, event.Undisturbed := fun event member =>
    quiet event (List.mem_append_right _ (List.mem_cons_of_mem _ member))
  rw [run_append, run_cons, tick, fired]
  exact run_used rfl later

/-- The alarm is due at the tick of host time 5, before the interrupt is enabled. -/
theorem alarm_lost :
    ¬∀ (rtc : GoldfishRtc) (alarm : BitVec 64) (setHigh setLow due : Event)
      (before after : List Event),
      setHigh.Writes Register.alarmHigh (· = (alarm >>> 32).setWidth 32) →
      setLow.Writes Register.alarmLow (· = alarm.setWidth 32) →
      (setHigh :: setLow :: before ++ due :: after).Pairwise
        (fun earlier later => earlier.host ≤ later.host) →
      (∀ event ∈ before ++ due :: after, event.Undisturbed) →
      due.operation = .tick →
      alarm ≤ (rtc.run (setHigh :: setLow :: before)).timeNanoseconds due.host →
      (rtc.run (setHigh :: setLow :: before ++ due :: after)).irqEnabled = true →
      (rtc.run (setHigh :: setLow :: before ++ due :: after)).interruptPending = true := by
  intro never
  have enable : Event.Undisturbed ⟨6, .write Register.irqEnabled .word 1⟩ :=
    ⟨Event.not_writes_of_ne rfl (by decide), Event.not_writes_of_ne rfl (by decide),
      Event.not_writes_of_ne rfl (by decide)⟩
  have ticked : ∀ host, Event.Undisturbed ⟨host, .tick⟩ := fun host =>
    ⟨Event.not_writes_of_tick rfl, Event.not_writes_of_tick rfl, Event.not_writes_of_tick rfl⟩
  have quiet := List.forall_mem_cons.mpr ⟨ticked 5, List.forall_mem_cons.mpr ⟨enable,
    List.forall_mem_cons.mpr ⟨ticked 7, List.forall_mem_nil _⟩⟩⟩
  have pending := never {} 3 ⟨1, .write Register.alarmHigh .word 0⟩
    ⟨2, .write Register.alarmLow .word 3⟩ ⟨7, .tick⟩
    [⟨5, .tick⟩, ⟨6, .write Register.irqEnabled .word 1⟩] [] ⟨0, rfl, rfl⟩ ⟨3, rfl, rfl⟩
    (by decide) quiet rfl (by decide) rfl
  exact absurd pending (by decide)

/-- An interrupt enabled before the alarm is due, while the clock is set once more. -/
theorem alarm_pending_iff_enabled :
    ((GoldfishRtc.run {} [⟨1, .write Register.alarmHigh .word 1⟩,
      ⟨2, .write Register.alarmLow .word 3⟩, ⟨3, .tick⟩, ⟨4, .write Register.irqEnabled .word 1⟩,
      ⟨0x100000003, .tick⟩, ⟨0x100000004, .write Register.timeLow .word 0⟩]).interruptPending =
        true ↔
      (GoldfishRtc.run {} [⟨1, .write Register.alarmHigh .word 1⟩,
        ⟨2, .write Register.alarmLow .word 3⟩, ⟨3, .tick⟩,
        ⟨4, .write Register.irqEnabled .word 1⟩]).irqEnabled = true ∧
      ∀ event ∈ [Event.mk 0x100000004 (.write Register.timeLow .word 0)],
        ¬event.Writes Register.irqEnabled (· = 0)) := by
  have enable : Event.Undisturbed ⟨4, .write Register.irqEnabled .word 1⟩ :=
    ⟨Event.not_writes_of_ne rfl (by decide), Event.not_writes_of_ne rfl (by decide),
      Event.not_writes_of_ne rfl (by decide)⟩
  have set : Event.Undisturbed ⟨0x100000004, .write Register.timeLow .word 0⟩ :=
    ⟨Event.not_writes_of_ne rfl (by decide), Event.not_writes_of_ne rfl (by decide),
      Event.not_writes_of_ne rfl (by decide)⟩
  have ticked : ∀ host, Event.Undisturbed ⟨host, .tick⟩ := fun host =>
    ⟨Event.not_writes_of_tick rfl, Event.not_writes_of_tick rfl, Event.not_writes_of_tick rfl⟩
  have quiet := List.forall_mem_cons.mpr ⟨ticked 3, List.forall_mem_cons.mpr ⟨enable,
    List.forall_mem_cons.mpr ⟨ticked 0x100000003, List.forall_mem_cons.mpr ⟨set,
      List.forall_mem_nil _⟩⟩⟩⟩
  refine alarm_pending_iff {} 0x100000003 ⟨1, .write Register.alarmHigh .word 1⟩
    ⟨2, .write Register.alarmLow .word 3⟩ ⟨0x100000003, .tick⟩ []
    [⟨3, .tick⟩, ⟨4, .write Register.irqEnabled .word 1⟩]
    [⟨0x100000004, .write Register.timeLow .word 0⟩] ⟨1, rfl, rfl⟩ (List.forall_mem_nil _)
    ⟨3, rfl, rfl⟩ quiet rfl (by decide) ?_
  intro early event late split is
  rcases early with _ | ⟨event', _ | ⟨event'', early⟩⟩
  · injection split with same _
    subst same
    decide
  · injection split with _ rest
    injection rest with same _
    subst same
    cases is
  · simp at split

end RvEmulator.Devices.GoldfishRtc
