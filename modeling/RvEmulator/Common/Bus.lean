/-! The bus interface shared by both cores (`rv/common/bus.hpp`). A bus is a
state type with one transformer for each virtual method; constant methods are
plain functions of the state. -/

namespace RvEmulator

abbrev PhysAddr := BitVec 64

inductive AccessWidth where
  | byte | halfWord | word | doubleWord
deriving DecidableEq, Repr

/-- The width as its enumerator's value: the number of bytes accessed. -/
def AccessWidth.bytes : AccessWidth → Nat
  | .byte => 1
  | .halfWord => 2
  | .word => 4
  | .doubleWord => 8

theorem AccessWidth.bytes_pos (width : AccessWidth) : 0 < width.bytes := by
  cases width <;> decide

theorem AccessWidth.bytes_le (width : AccessWidth) : width.bytes ≤ 8 := by
  cases width <;> decide

inductive AccessKind where
  | instructionFetch | load | store | pageTableWalk | atomic | dma
deriving DecidableEq, Repr

inductive BusFault where
  | none | unmapped | misaligned | outOfRange | readOnly | unsupported | deviceError
deriving DecidableEq, Repr

structure ReadResult where
  fault : BusFault := .none
  value : BitVec 64 := 0
deriving DecidableEq, Repr

def ReadResult.ok (result : ReadResult) : Bool := result.fault == .none

structure StoreConditionalResult where
  fault : BusFault := .none
  succeeded : Bool := false
deriving DecidableEq, Repr

def StoreConditionalResult.ok (result : StoreConditionalResult) : Bool := result.fault == .none

inductive AmoOperation where
  | swap | add | xor | and | or | min | max | minUnsigned | maxUnsigned
deriving DecidableEq, Repr

structure AtomicResult where
  fault : BusFault := .none
  originalValue : BitVec 32 := 0
deriving DecidableEq, Repr

def AtomicResult.ok (result : AtomicResult) : Bool := result.fault == .none

structure AtomicResult64 where
  fault : BusFault := .none
  originalValue : BitVec 64 := 0
deriving DecidableEq, Repr

def AtomicResult64.ok (result : AtomicResult64) : Bool := result.fault == .none

/-- The virtual methods of `CpuBus`. The doubleword atomics and the cacheability
query have the base class's bodies as defaults. -/
class CpuBus (β : Type) where
  read : PhysAddr → AccessWidth → AccessKind → StateM β ReadResult
  write : PhysAddr → AccessWidth → BitVec 64 → AccessKind → StateM β BusFault
  loadReservedWord : BitVec 32 → PhysAddr → StateM β ReadResult
  storeConditionalWord : BitVec 32 → PhysAddr → BitVec 32 → StateM β StoreConditionalResult
  atomicWord : BitVec 32 → PhysAddr → AmoOperation → BitVec 32 → StateM β AtomicResult
  loadReservedDoubleword : BitVec 32 → PhysAddr → StateM β ReadResult :=
    fun _ _ => pure { fault := .unsupported }
  storeConditionalDoubleword : BitVec 32 → PhysAddr → BitVec 64 → StateM β StoreConditionalResult :=
    fun _ _ _ => pure { fault := .unsupported }
  atomicDoubleword : BitVec 32 → PhysAddr → AmoOperation → BitVec 64 → StateM β AtomicResult64 :=
    fun _ _ _ _ => pure { fault := .unsupported }
  readTime : β → BitVec 64
  instructionCacheable : β → PhysAddr → Bool := fun _ _ => false

/-- One call of a state-changing bus method, with its arguments. -/
inductive BusCommand where
  | read (address : PhysAddr) (width : AccessWidth) (kind : AccessKind)
  | write (address : PhysAddr) (width : AccessWidth) (value : BitVec 64) (kind : AccessKind)
  | loadReservedWord (hart : BitVec 32) (address : PhysAddr)
  | storeConditionalWord (hart : BitVec 32) (address : PhysAddr) (value : BitVec 32)
  | atomicWord (hart : BitVec 32) (address : PhysAddr) (operation : AmoOperation)
      (operand : BitVec 32)
  | loadReservedDoubleword (hart : BitVec 32) (address : PhysAddr)
  | storeConditionalDoubleword (hart : BitVec 32) (address : PhysAddr) (value : BitVec 64)
  | atomicDoubleword (hart : BitVec 32) (address : PhysAddr) (operation : AmoOperation)
      (operand : BitVec 64)
deriving DecidableEq, Repr

/-- The result type of each method. -/
def BusCommand.Response : BusCommand → Type
  | .read .. | .loadReservedWord .. | .loadReservedDoubleword .. => ReadResult
  | .write .. => BusFault
  | .storeConditionalWord .. | .storeConditionalDoubleword .. => StoreConditionalResult
  | .atomicWord .. => AtomicResult
  | .atomicDoubleword .. => AtomicResult64

/-- Dispatch a command to the bus method it names. -/
def CpuBus.perform [CpuBus β] : (command : BusCommand) → StateM β command.Response
  | .read address width kind => CpuBus.read address width kind
  | .write address width value kind => CpuBus.write address width value kind
  | .loadReservedWord hart address => CpuBus.loadReservedWord hart address
  | .storeConditionalWord hart address value => CpuBus.storeConditionalWord hart address value
  | .atomicWord hart address operation operand =>
      CpuBus.atomicWord hart address operation operand
  | .loadReservedDoubleword hart address => CpuBus.loadReservedDoubleword hart address
  | .storeConditionalDoubleword hart address value =>
      CpuBus.storeConditionalDoubleword hart address value
  | .atomicDoubleword hart address operation operand =>
      CpuBus.atomicDoubleword hart address operation operand

/-- A bus whose reads have no side effects. `same` says that two states hold the
same contents; a cached routing decision, say, need not agree. Every method
answers alike on equal contents and keeps them equal, and a read changes none. -/
structure QuietBus (β : Type) [CpuBus β] where
  same : β → β → Prop
  symm : same b c → same c b
  trans : same b c → same c d → same b d
  perform : ∀ command : BusCommand, same b c →
    (CpuBus.perform command b).1 = (CpuBus.perform command c).1 ∧
      same (CpuBus.perform command b).2 (CpuBus.perform command c).2
  quiet : ∀ address width kind, same b c → same b (CpuBus.read address width kind c).2
  time : same b c → CpuBus.readTime b = CpuBus.readTime c
  cacheable : ∀ address, same b c →
    CpuBus.instructionCacheable b address = CpuBus.instructionCacheable c address

namespace QuietBus

variable [CpuBus β] (quiet : QuietBus β)

theorem self_left (equal : quiet.same b c) : quiet.same b b := quiet.trans equal (quiet.symm equal)

theorem self_right (equal : quiet.same b c) : quiet.same c c := quiet.trans (quiet.symm equal) equal

theorem read_value (equal : quiet.same b c) (address : PhysAddr) (width : AccessWidth)
    (kind : AccessKind) :
    (CpuBus.read address width kind b).1 = (CpuBus.read address width kind c).1 :=
  (quiet.perform (.read address width kind) equal).1

theorem read_same (equal : quiet.same b c) (address : PhysAddr) (width : AccessWidth)
    (kind : AccessKind) :
    quiet.same (CpuBus.read address width kind b).2 (CpuBus.read address width kind c).2 :=
  (quiet.perform (.read address width kind) equal).2

end QuietBus

end RvEmulator
