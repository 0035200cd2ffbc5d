import RvEmulator.Core64.Compressed

namespace RvEmulator.Core64

abbrev Xlen := BitVec 64

structure FloatingPointState where
  registers : RegisterIndex → Xlen := fun _ => 0
  fcsr : BitVec 8 := 0

structure CpuSnapshot extends Hart 64 where
  floatingPoint : FloatingPointState := {}

inductive StepStatus where
  | retired | instructionAddressMisaligned | instructionAccessFault | illegalInstruction
  | environmentCall | breakpoint | loadAddressMisaligned | loadAccessFault
  | storeAddressMisaligned | storeAccessFault | trapTaken | waitingForInterrupt
deriving DecidableEq, Repr

/-- A register write as a step reports it; `FloatingRegisterCommit` has the same
fields. -/
structure RegisterCommit where
  enabled : Bool := false
  index : RegisterIndex := 0
  value : Xlen := 0
deriving DecidableEq, Repr

structure StepResult where
  status : StepStatus := .illegalInstruction
  privilege : PrivilegeMode := .machine
  pc : Xlen := 0
  instruction : BitVec 32 := 0
  trapValue : Xlen := 0
  busFault : BusFault := .none
  registerWrite : RegisterCommit := {}
  floatingRegisterWrite : RegisterCommit := {}
deriving DecidableEq, Repr

namespace CpuSnapshot

/-- Update the fields shared with the 32-bit core. -/
def onHart (state : CpuSnapshot) (change : Hart 64 → Hart 64) : CpuSnapshot :=
  { state with toHart := change state.toHart }

def setFloatingRegister (state : CpuSnapshot) (index : RegisterIndex) (value : Xlen) :
    CpuSnapshot :=
  { state with
    floatingPoint :=
      { state.floatingPoint with
        registers := Function.update state.floatingPoint.registers index value } }

end CpuSnapshot

end RvEmulator.Core64
