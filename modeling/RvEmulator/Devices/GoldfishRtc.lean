import Mathlib.Algebra.Ring.Int.Defs
import RvEmulator.Library.Signed
import RvEmulator.Library.Unsigned
import RvEmulator.Platform.Device

/-! The Goldfish real-time clock (`devices/src/goldfish_rtc.cpp`). What the host clock returns
is an argument of each access. -/

namespace RvEmulator.Devices

open Library Platform

/-- `hostTimeOffsetNs` is signed. -/
structure GoldfishRtc where
  hostTimeOffsetNs : BitVec 64 := 0
  latchedTimeHigh : BitVec 32 := 0
  pendingTimeHigh : BitVec 32 := 0
  pendingAlarmHigh : BitVec 32 := 0
  alarmTimeNs : BitVec 64 := 0
  alarmActive : Bool := false
  irqEnabled : Bool := false
  interruptPending : Bool := false
deriving DecidableEq, Repr

namespace GoldfishRtc

namespace Register

def timeLow : BitVec 64 := 0x00
def timeHigh : BitVec 64 := 0x04
def alarmLow : BitVec 64 := 0x08
def alarmHigh : BitVec 64 := 0x0C
def irqEnabled : BitVec 64 := 0x10
def clearAlarm : BitVec 64 := 0x14
def alarmStatus : BitVec 64 := 0x18
def clearInterrupt : BitVec 64 := 0x1C

end Register

/-- `time_nanoseconds`, with the signed and the unsigned arithmetic that it uses. -/
def timeNanosecondsWith [Monad m] (signed : SignedArithmetic 64 m) (unsigned : Arithmetic 64 m)
    (rtc : GoldfishRtc) (host : BitVec 64) : m (BitVec 64) :=
  let offset := rtc.hostTimeOffsetNs
  if 0 ≤ offset.toInt then do
    let limit ← unsigned.sub (BitVec.allOnes 64) offset
    if limit < host then pure (BitVec.allOnes 64) else unsigned.add host offset
  else do
    let raised ← signed.add offset 1
    let negated ← signed.neg raised
    let magnitude ← unsigned.add negated 1
    if host < magnitude then pure 0 else unsigned.sub host magnitude

/-- The offset that `set_time` stores. -/
def offsetWith [Monad m] (signed : SignedArithmetic 64 m) (host nanoseconds : BitVec 64) :
    m (BitVec 64) :=
  let maximum := BitVec.intMax 64
  if maximum < nanoseconds then pure maximum
  else if host.toInt ≤ nanoseconds.toInt then signed.sub nanoseconds host
  else do
    let ahead ← signed.sub host nanoseconds
    signed.neg ahead

def timeNanoseconds (rtc : GoldfishRtc) (host : BitVec 64) : BitVec 64 :=
  Id.run (rtc.timeNanosecondsWith .wrapping .wrapping host)

def setTime (rtc : GoldfishRtc) (host nanoseconds : BitVec 64) : GoldfishRtc :=
  { rtc with hostTimeOffsetNs := Id.run (offsetWith .wrapping host nanoseconds) }

/-- Two halves of a value. -/
def joined (high low : BitVec 32) : BitVec 64 := high.setWidth 64 <<< 32 ||| low.setWidth 64

/-- A width or an offset that both accesses refuse. -/
def Unsupported (offset : BitVec 64) (width : AccessWidth) : Prop :=
  width ≠ .word ∨ offset &&& 3 ≠ 0

instance (offset : BitVec 64) (width : AccessWidth) : Decidable (Unsupported offset width) :=
  inferInstanceAs (Decidable (_ ∨ _))

def read (host offset : BitVec 64) (width : AccessWidth) : StateM GoldfishRtc ReadResult :=
  fun rtc =>
    if Unsupported offset width then ({ fault := .unsupported }, rtc)
    else if offset = Register.timeLow then
      let now := rtc.timeNanoseconds host
      ({ value := (now.setWidth 32).setWidth 64 },
        { rtc with latchedTimeHigh := (now >>> 32).setWidth 32 })
    else if offset = Register.timeHigh then ({ value := rtc.latchedTimeHigh.setWidth 64 }, rtc)
    else if offset = Register.alarmLow then
      ({ value := (rtc.alarmTimeNs.setWidth 32).setWidth 64 }, rtc)
    else if offset = Register.alarmHigh then
      ({ value := ((rtc.alarmTimeNs >>> 32).setWidth 32).setWidth 64 }, rtc)
    else if offset = Register.irqEnabled then ({ value := if rtc.irqEnabled then 1 else 0 }, rtc)
    else if offset = Register.alarmStatus then ({ value := if rtc.alarmActive then 1 else 0 }, rtc)
    else ({}, rtc)

/-- A write of a word to a register. -/
def writeRegister (host offset : BitVec 64) (word : BitVec 32) (rtc : GoldfishRtc) : GoldfishRtc :=
  if offset = Register.timeHigh then { rtc with pendingTimeHigh := word }
  else if offset = Register.timeLow then rtc.setTime host (joined rtc.pendingTimeHigh word)
  else if offset = Register.alarmHigh then { rtc with pendingAlarmHigh := word }
  else if offset = Register.alarmLow then
    { rtc with
      alarmTimeNs := joined rtc.pendingAlarmHigh word, alarmActive := true
      interruptPending := false }
  else if offset = Register.irqEnabled then
    { rtc with
      irqEnabled := word != 0
      interruptPending := if word = 0 then false else rtc.interruptPending }
  else if offset = Register.clearAlarm then
    if word = 0 then rtc else { rtc with alarmActive := false, interruptPending := false }
  else if offset = Register.clearInterrupt then
    if word = 0 then rtc else { rtc with interruptPending := false }
  else rtc

def write (host offset : BitVec 64) (width : AccessWidth) (value : BitVec 64) :
    StateM GoldfishRtc BusFault := fun rtc =>
  if Unsupported offset width then (.unsupported, rtc)
  else (.none, writeRegister host offset (value.setWidth 32) rtc)

def tick (host : BitVec 64) (rtc : GoldfishRtc) : GoldfishRtc :=
  if rtc.alarmActive = true ∧ rtc.alarmTimeNs ≤ rtc.timeNanoseconds host then
    { rtc with alarmActive := false, interruptPending := rtc.irqEnabled }
  else rtc

/-! ### Runs -/

inductive Operation where
  | read (offset : BitVec 64) (width : AccessWidth)
  | write (offset : BitVec 64) (width : AccessWidth) (value : BitVec 64)
  | tick
deriving DecidableEq, Repr

/-- An operation, and the time of the host. -/
structure Event where
  host : BitVec 64
  operation : Operation
deriving DecidableEq, Repr

def next (rtc : GoldfishRtc) (event : Event) : GoldfishRtc :=
  match event.operation with
  | .read offset width => (read event.host offset width rtc).2
  | .write offset width value => (write event.host offset width value rtc).2
  | .tick => tick event.host rtc

def run (rtc : GoldfishRtc) (events : List Event) : GoldfishRtc := events.foldl next rtc

/-- A write that reaches a register, of a word that holds. -/
def Event.Writes (event : Event) (offset : BitVec 64) (holds : BitVec 32 → Prop) : Prop :=
  ∃ value, event.operation = .write offset .word value ∧ holds (value.setWidth 32)

end GoldfishRtc

end RvEmulator.Devices
