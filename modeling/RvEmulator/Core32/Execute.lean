import RvEmulator.Core32.Mmu
import RvEmulator.Core32.Pending
import RvEmulator.Mmu.Fabric

/-! Fetching an instruction and executing those that reach the bus
(`core32/src/frontend.cpp`, `core32/src/execute.cpp`). The bus, the TLB and the
caches change as the instruction goes, also when it traps. -/

namespace RvEmulator.Core32

open Library

instance : Inhabited DecodedInstruction := ⟨{}⟩

/-- What instructions reach besides the snapshot. -/
abbrev Fabric (β : Type) := CoreFabric 32 DecodedInstruction β

/-- The arguments of the `trap` lambda, with the instruction as far as it was fetched. -/
structure Trap where
  cause : ExceptionCause
  instruction : BitVec 32
  trapValue : Xlen
  busFault : BusFault := .none

abbrev Instr (β : Type) := Exec (Fabric β) Trap

/-- The hashes of the instruction cache. -/
def indexing : CacheIndexing 32 where
  asid satp := ((satp &&& SatpBits.asid) >>> 22).setWidth 16
  entryIndex virtualAddress satp privilege :=
    ((virtualAddress >>> 1) ^^^ (virtualAddress >>> 13) ^^^ satp ^^^ (satp >>> 11) ^^^
      privilege.code 32).toNat % 4096
  asidIndex asid := asid.toNat
  pageIndex page := (page ^^^ (page >>> 12)).toNat % 1024
  asidPageIndex page asid := (page ^^^ (page >>> 12) ^^^ (asid.setWidth 32 * 0x9E37)).toNat % 1024

def decodeIndex (instruction : BitVec 32) (length : BitVec 8) : Nat :=
  (instruction ^^^ (instruction >>> 11) ^^^ (instruction >>> 21) ^^^ length.setWidth 32).toNat % 1024

/-- The decoder for an instruction of a length, with nothing cached. -/
def decodeDirect (instruction : BitVec 32) (length : BitVec 8) : DecodedInstruction :=
  if length = 2 then decodeCompressedInstruction (instruction.setWidth 16)
  else decodeInstruction instruction

section

variable [CpuBus β]

/-- Through the TLB in fast mode, by a walk otherwise. -/
def translate (mode : ExecutionMode) (state : CpuSnapshot) (virtualAddress : Xlen)
    (access : MemoryAccessType) : Instr β TranslationResult :=
  match mode with
  | .fast => Exec.lift fun fabric =>
    let answer := tlbTranslate state virtualAddress access (fabric.bus, fabric.tlb)
    (answer.1, { fabric with bus := answer.2.1, tlb := answer.2.2 })
  | .reference => onBus (translateAddress state virtualAddress access)

/-! ### The frontend -/

def decode (mode : ExecutionMode) (instruction : BitVec 32) (length : BitVec 8) :
    Instr β DecodedInstruction :=
  match mode with
  | .reference => pure (decodeDirect instruction length)
  | .fast => Exec.lift fun fabric =>
    let answer := DecodeCache.decode decodeDirect (decodeIndex instruction length) instruction
      length fabric.decodeCache
    (answer.1, { fabric with decodeCache := answer.2 })

/-- Translate and read one halfword of an instruction, of which `fetched` is
what has been read so far. -/
def fetchHalfword (mode : ExecutionMode) (state : CpuSnapshot) (virtualAddress : Xlen)
    (fetched : BitVec 32) : Instr β (PhysAddr × BitVec 16) := do
  let translation ← translate mode state virtualAddress .instructionFetch
  if !translation.isReady then
    let cause := if translation.status = .pageFault then ExceptionCause.instructionPageFault
      else .instructionAccessFault
    Exec.stop ⟨cause, fetched, virtualAddress, translation.busFault⟩
  else
    let read ← onBus (CpuBus.read translation.physicalAddress .halfWord .instructionFetch)
    if !read.ok then
      let cause := if read.fault = .misaligned then ExceptionCause.instructionAddressMisaligned
        else .instructionAccessFault
      Exec.stop ⟨cause, fetched, virtualAddress, read.fault⟩
    else pure (translation.physicalAddress, read.value.setWidth 16)

/-- `bus.instruction_cacheable(..)`, asked only if the cache may be used, and only of
the address of the first halfword. -/
def cacheable (mayUse : Bool) (address : PhysAddr) : Instr β Bool :=
  Exec.lift fun fabric => (mayUse && CpuBus.instructionCacheable fabric.bus address, fabric)

def insertInstructionCache (state : CpuSnapshot) (instruction : BitVec 32)
    (decoded : DecodedInstruction) : Instr β Unit :=
  Exec.lift fun fabric =>
    ((), { fabric with
      instructionCache := fabric.instructionCache.insert indexing state.pc
        (sanitizeSatp state.supervisorCsrs.satp) state.privilege instruction decoded })

def lookupInstructionCache (mayUse : Bool) (state : CpuSnapshot) :
    Instr β (Option (InstructionCacheEntry 32 DecodedInstruction)) :=
  Exec.lift fun fabric =>
    (if mayUse then
      fabric.instructionCache.lookup indexing state.pc (sanitizeSatp state.supervisorCsrs.satp)
        state.privilege
    else none, fabric)

/-- Read and decode an instruction: its bits, its decoding, and whether its first
halfword lies in cacheable memory. -/
def fetchInstruction (mode : ExecutionMode) (mayUse : Bool) (state : CpuSnapshot) :
    Instr β (BitVec 32 × DecodedInstruction × Bool) := do
  let first ← fetchHalfword mode state state.pc 0
  let low := first.2.setWidth 32
  let enabled ← cacheable mayUse first.1
  if (low &&& 0x3) ≠ 0x3 then do
    let decoded ← decode mode low 2
    pure (low, decoded, enabled)
  else do
    let second ← fetchHalfword mode state (state.pc + 2) low
    let instruction := low ||| (second.2.setWidth 32 <<< 16)
    let decoded ← decode mode instruction 4
    pure (instruction, decoded, enabled)

/-- The fetch when the instruction cache does not serve it. -/
def fetchMiss (mode : ExecutionMode) (mayUse : Bool) (state : CpuSnapshot) :
    Instr β (BitVec 32 × DecodedInstruction) := do
  let fetched ← fetchInstruction mode mayUse state
  if !fetched.2.1.valid then
    Exec.stop ⟨.illegalInstruction, fetched.1, fetched.1, .none⟩
  else if fetched.2.2 then do
    insertInstructionCache state fetched.1 fetched.2.1
    pure (fetched.1, fetched.2.1)
  else pure (fetched.1, fetched.2.1)

/-- A page-crossing instruction is never served from the cache. -/
def mayUseInstructionCache (mode : ExecutionMode) (pc : Xlen) : Bool :=
  mode == .fast && (pc &&& 0xFFF) != 0xFFE

def fetchDecode (mode : ExecutionMode) (state : CpuSnapshot) :
    Instr β (BitVec 32 × DecodedInstruction) :=
  if (state.pc &&& 0x1) ≠ 0 then
    Exec.stop ⟨.instructionAddressMisaligned, 0, state.pc, .misaligned⟩
  else do
    let mayUse := mayUseInstructionCache mode state.pc
    match ← lookupInstructionCache mayUse state with
    | some entry => pure (entry.instruction, entry.decoded)
    | none => fetchMiss mode mayUse state

/-! ### Data accesses -/

/-- The causes of a load or of a store. -/
def misalignedCause (loads : Bool) : ExceptionCause :=
  if loads then .loadAddressMisaligned else .storeAddressMisaligned

def accessFaultCause (loads : Bool) : ExceptionCause :=
  if loads then .loadAccessFault else .storeAccessFault

def pageFaultCause (loads : Bool) : ExceptionCause :=
  if loads then .loadPageFault else .storePageFault

/-- What the bus refuses as misaligned is reported as such. -/
def busCause (loads : Bool) (fault : BusFault) : ExceptionCause :=
  if fault = .misaligned then misalignedCause loads else accessFaultCause loads

/-- The part that `execute_memory` and `execute_atomic` share: check the alignment,
translate, and go on at the physical address. -/
def dataAccess (mode : ExecutionMode) (state : CpuSnapshot) (address : Xlen)
    (width : AccessWidth) (loads : Bool) (access : PhysAddr → Instr β UnitResult) :
    Instr β UnitResult :=
  if (address &&& (BitVec.ofNat 32 width.bytes - 1)) ≠ 0 then
    pure (.raise (misalignedCause loads) address .misaligned)
  else do
    let translation ← translate mode state address (if loads then .load else .store)
    if !translation.isReady then
      pure (.raise (if translation.status = .pageFault then pageFaultCause loads
        else accessFaultCause loads) address translation.busFault)
    else access translation.physicalAddress

/-- Width of a load or store, and whether it is a load. -/
def memoryShape : InstructionKind → Option (AccessWidth × Bool)
  | .lb | .lbu => some (.byte, true)
  | .lh | .lhu => some (.halfWord, true)
  | .lw => some (.word, true)
  | .sb => some (.byte, false)
  | .sh => some (.halfWord, false)
  | .sw => some (.word, false)
  | _ => none

def loadedValue (kind : InstructionKind) (rawValue : Xlen) : Xlen :=
  match kind with
  | .lb => Decode.signExtend rawValue 8
  | .lbu => rawValue &&& 0xFF
  | .lh => Decode.signExtend rawValue 16
  | .lhu => rawValue &&& 0xFFFF
  | _ => rawValue

def executeMemory (mode : ExecutionMode) (state : CpuSnapshot) (decoded : DecodedInstruction)
    (rs1 rs2 : Xlen) : Instr β UnitResult :=
  let address := rs1 + decoded.immediate
  let next := sequential decoded state.pc
  match memoryShape decoded.kind with
  | none => pure .declined
  | some (width, true) =>
    dataAccess mode state address width true fun physicalAddress => do
      let read ← onBus (CpuBus.read physicalAddress width .load)
      if !read.ok then pure (.raise (busCause true read.fault) address read.fault)
      else
        pure (.ready { next with
          registerWrite := writeRd decoded (loadedValue decoded.kind (read.value.setWidth 32)) })
  | some (width, false) =>
    dataAccess mode state address width false fun physicalAddress => do
      let fault ← onBus (CpuBus.write physicalAddress width (rs2.setWidth 64) .store)
      if fault ≠ .none then pure (.raise (busCause false fault) address fault)
      else pure (.ready next)

/-- The atomic instructions, by the bus call that they make. -/
inductive AtomicKind where
  | loadReserved | storeConditional | amo (operation : AmoOperation)
deriving DecidableEq

def atomicKind : InstructionKind → Option AtomicKind
  | .lrW => some .loadReserved
  | .scW => some .storeConditional
  | .amoSwapW => some (.amo .swap)
  | .amoAddW => some (.amo .add)
  | .amoXorW => some (.amo .xor)
  | .amoAndW => some (.amo .and)
  | .amoOrW => some (.amo .or)
  | .amoMinW => some (.amo .min)
  | .amoMaxW => some (.amo .max)
  | .amoMinuW => some (.amo .minUnsigned)
  | .amoMaxuW => some (.amo .maxUnsigned)
  | _ => none

/-- The bus call of an atomic instruction and the register value it gives. -/
def atomicAccess (kind : AtomicKind) (hart : BitVec 32) (physicalAddress : PhysAddr)
    (rs2 : Xlen) : StateM β (BusFault × Xlen) :=
  match kind with
  | .loadReserved => do
    let result ← CpuBus.loadReservedWord hart physicalAddress
    pure (result.fault, result.value.setWidth 32)
  | .storeConditional => do
    let result ← CpuBus.storeConditionalWord hart physicalAddress rs2
    pure (result.fault, if result.succeeded then 0 else 1)
  | .amo operation => do
    let result ← CpuBus.atomicWord hart physicalAddress operation rs2
    pure (result.fault, result.originalValue)

def executeAtomic (mode : ExecutionMode) (state : CpuSnapshot) (decoded : DecodedInstruction)
    (rs1 rs2 : Xlen) : Instr β UnitResult :=
  match atomicKind decoded.kind with
  | none => pure .declined
  | some kind =>
    let loads := decide (kind = .loadReserved)
    dataAccess mode state rs1 .word loads fun physicalAddress => do
      let result ← onBus (atomicAccess kind state.hartId physicalAddress rs2)
      if result.1 ≠ .none then pure (.raise (busCause loads result.1) rs1 result.1)
      else
        pure (.ready { sequential decoded state.pc with
          registerWrite := writeRd decoded result.2 })

end

end RvEmulator.Core32
