import RvEmulator.Platform.Device

/-! The NS16550A UART (`devices/src/uart16550.cpp`): its registers and its interrupt
line. -/

namespace RvEmulator.Devices

open Platform

structure Uart16550 where
  receiveFifo : List (BitVec 8) := []
  transmitBuffer : List (BitVec 8) := []
  interruptEnable : BitVec 8 := 0
  fifoControl : BitVec 8 := 0
  lineControl : BitVec 8 := 0
  modemControl : BitVec 8 := 0
  modemStatus : BitVec 8 := 0
  scratch : BitVec 8 := 0
  divisorLow : BitVec 8 := 1
  divisorHigh : BitVec 8 := 0
  transmitInterruptPending : Bool := false
deriving DecidableEq, Repr

namespace Uart16550

def ierReceivedData : BitVec 8 := 1 <<< 0
def ierTransmitterEmpty : BitVec 8 := 1 <<< 1
def lcrDivisorLatch : BitVec 8 := 1 <<< 7
def lsrDataReady : BitVec 8 := 1 <<< 0
def lsrTransmitterEmpty : BitVec 8 := 1 <<< 5
def lsrTransmitterIdle : BitVec 8 := 1 <<< 6

def divisorLatchAccess (uart : Uart16550) : Bool := uart.lineControl &&& lcrDivisorLatch != 0

def lineStatus (uart : Uart16550) : BitVec 8 :=
  let status := lsrTransmitterEmpty ||| lsrTransmitterIdle
  if uart.receiveFifo.isEmpty then status else status ||| lsrDataReady

def receiveInterrupt (uart : Uart16550) : Bool :=
  !uart.receiveFifo.isEmpty && uart.interruptEnable &&& ierReceivedData != 0

def transmitInterrupt (uart : Uart16550) : Bool :=
  uart.transmitInterruptPending && uart.interruptEnable &&& ierTransmitterEmpty != 0

def interruptPending (uart : Uart16550) : Bool := uart.receiveInterrupt || uart.transmitInterrupt

def interruptIdentification : StateM Uart16550 (BitVec 8) := fun uart =>
  if uart.receiveInterrupt then (0x04, uart)
  else if uart.transmitInterrupt then (0x02, { uart with transmitInterruptPending := false })
  else (0x01, uart)

/-- The register at an offset below 8. -/
def readRegister : Nat → StateM Uart16550 (BitVec 8)
  | 0 => fun uart =>
    if uart.divisorLatchAccess then (uart.divisorLow, uart)
    else
      match uart.receiveFifo with
      | [] => (0, uart)
      | value :: rest => (value, { uart with receiveFifo := rest })
  | 1 => fun uart =>
    (if uart.divisorLatchAccess then uart.divisorHigh else uart.interruptEnable, uart)
  | 2 => interruptIdentification
  | 3 => fun uart => (uart.lineControl, uart)
  | 4 => fun uart => (uart.modemControl, uart)
  | 5 => fun uart => (uart.lineStatus, uart)
  | 6 => fun uart => (uart.modemStatus, uart)
  | 7 => fun uart => (uart.scratch, uart)
  | _ => fun uart => (0, uart)

def read (offset : BitVec 64) (width : AccessWidth) : StateM Uart16550 ReadResult := fun uart =>
  if width ≠ .byte ∨ 8 ≤ offset then ({ fault := .unsupported }, uart)
  else ({ value := (readRegister offset.toNat uart).1.setWidth 64 },
    (readRegister offset.toNat uart).2)

def writeRegister (uart : Uart16550) (byte : BitVec 8) : Nat → Uart16550
  | 0 =>
    if uart.divisorLatchAccess then { uart with divisorLow := byte }
    else
      { uart with
        transmitBuffer := uart.transmitBuffer ++ [byte]
        transmitInterruptPending := true }
  | 1 =>
    if uart.divisorLatchAccess then { uart with divisorHigh := byte }
    else
      let transmitterWasDisabled := uart.interruptEnable &&& ierTransmitterEmpty == 0
      let interruptEnable := byte &&& 0x0F
      { uart with
        interruptEnable
        transmitInterruptPending :=
          transmitterWasDisabled && interruptEnable &&& ierTransmitterEmpty != 0 ||
            uart.transmitInterruptPending }
  | 2 =>
    { uart with
      fifoControl := byte
      receiveFifo := if byte &&& 0x02 ≠ 0 then [] else uart.receiveFifo
      transmitBuffer := if byte &&& 0x04 ≠ 0 then [] else uart.transmitBuffer }
  | 3 => { uart with lineControl := byte }
  | 4 => { uart with modemControl := byte }
  | 7 => { uart with scratch := byte }
  | _ => uart

def write (offset : BitVec 64) (width : AccessWidth) (value : BitVec 64) :
    StateM Uart16550 BusFault := fun uart =>
  if width ≠ .byte ∨ 8 ≤ offset then (.unsupported, uart)
  else (.none, uart.writeRegister (value.setWidth 8) offset.toNat)

def injectReceived (uart : Uart16550) (text : List (BitVec 8)) : Uart16550 :=
  { uart with receiveFifo := uart.receiveFifo ++ text }

def takeTransmitted : StateM Uart16550 (List (BitVec 8)) := fun uart =>
  (uart.transmitBuffer, { uart with transmitBuffer := [] })

instance : Device Uart16550 where
  read := read
  write := write
  refused := by
    intro offset width value uart failed
    unfold write at failed ⊢
    split
    · rfl
    · rename_i supported
      rw [if_neg supported] at failed
      exact absurd rfl failed

end Uart16550

end RvEmulator.Devices
