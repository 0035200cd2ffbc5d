import RvEmulator.Common.InstructionCache
import RvEmulator.Library.Exec
import RvEmulator.Mmu.Tlb

/-! What either core has beside its registers, and computations over it. -/

namespace RvEmulator

open Library

/-- The bus of a core and its caches. -/
structure CoreFabric (w : Nat) (D β : Type) where
  bus : β
  tlb : Tlb w
  decodeCache : DecodeCache D
  instructionCache : InstructionCache w D

/-- Run a bus method. -/
def onBus (method : StateM β α) : Exec (CoreFabric w D β) ε α :=
  Exec.lift fun fabric => ((method fabric.bus).1, { fabric with bus := (method fabric.bus).2 })

end RvEmulator
