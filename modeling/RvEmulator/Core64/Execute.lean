import RvEmulator.Core64.Floating
import RvEmulator.Core64.Integer
import RvEmulator.Core64.Mmu
import RvEmulator.Mmu.Fabric

/-! Fetching and executing one instruction (`Core::step`, from the fetch to the
end of the switch). The snapshot is only read; what an instruction wants to
change is collected in an `Outcome`. The bus, the TLB and the caches change as
the instruction goes, also when it traps. -/

namespace RvEmulator.Core64

open Library

instance : Inhabited DecodedInstruction := ⟨{}⟩

/-- What instructions reach besides the snapshot. -/
abbrev Fabric (β : Type) := CoreFabric 64 DecodedInstruction β

/-- The arguments of the `trap` lambda. -/
structure Trap where
  cause : ExceptionCause
  instruction : BitVec 32
  trapValue : Xlen
  busFault : BusFault := .none

/-- The local variables of the switch. -/
structure Outcome where
  nextPc : Xlen
  registerValue : Option Xlen := none
  floatingRegisterValue : Option Xlen := none
  floatingExceptionFlags : BitVec 8 := 0
  csrWrite : Option (CsrAddress × Xlen) := none
  privilegedState : Option CpuSnapshot := none
  waitForInterrupt : Bool := false

abbrev Instr (β : Type) := Exec (Fabric β) Trap

/-- The hashes of the instruction cache. -/
def indexing : CacheIndexing 64 where
  asid satp := ((satp &&& SatpBits.asid) >>> 44).setWidth 16
  entryIndex virtualAddress satp privilege :=
    ((virtualAddress >>> 1) ^^^ (virtualAddress >>> 13) ^^^ satp ^^^ (satp >>> 17) ^^^
      (satp >>> 37) ^^^ privilege.code 64).toNat % 16384
  asidIndex asid := (asid ^^^ (asid >>> 12)).toNat % 4096
  pageIndex page := (page ^^^ (page >>> 12) ^^^ (page >>> 24)).toNat % 4096
  asidPageIndex page asid := (page ^^^ (page >>> 12) ^^^ (asid.setWidth 64 * 0x9E37)).toNat % 4096

def decodeIndex (instruction : BitVec 32) (length : BitVec 8) : Nat :=
  (instruction ^^^ (instruction >>> 11) ^^^ (length.setWidth 32 <<< 29)).toNat % 1024

def aligned (address : Xlen) (width : AccessWidth) : Bool :=
  (address &&& (BitVec.ofNat 64 width.bytes - 1)) == 0

section

variable [CpuBus β]

/-- The `translate` lambda. -/
def translate (mode : ExecutionMode) (state : CpuSnapshot) (virtualAddress : Xlen)
    (access : MemoryAccessType) : Instr β TranslationResult :=
  match mode with
  | .fast => Exec.lift fun fabric =>
    let answer := tlbTranslate state virtualAddress access (fabric.bus, fabric.tlb)
    (answer.1, { fabric with bus := answer.2.1, tlb := answer.2.2 })
  | .reference => onBus (translateAddress state virtualAddress access)

/-- `Core::decode`. -/
def decode (mode : ExecutionMode) (instruction : BitVec 32) (length : BitVec 8) :
    Instr β DecodedInstruction :=
  match mode with
  | .reference => pure (decodeDirect instruction length)
  | .fast => Exec.lift fun fabric =>
    let answer := DecodeCache.decode decodeDirect (decodeIndex instruction length) instruction
      length fabric.decodeCache
    (answer.1, { fabric with decodeCache := answer.2 })

/-- Translate and read one halfword of an instruction, of which `fetched` is
what has been read so far. -/
def fetchHalfword (mode : ExecutionMode) (state : CpuSnapshot) (virtualAddress : Xlen)
    (fetched : BitVec 32) : Instr β (PhysAddr × BitVec 16) := do
  let translation ← translate mode state virtualAddress .instructionFetch
  if !translation.isReady then
    let cause := if translation.status = .pageFault then ExceptionCause.instructionPageFault
      else .instructionAccessFault
    Exec.stop ⟨cause, fetched, virtualAddress, translation.busFault⟩
  else
    let read ← onBus (CpuBus.read translation.physicalAddress .halfWord .instructionFetch)
    if !read.ok then Exec.stop ⟨.instructionAccessFault, fetched, virtualAddress, read.fault⟩
    else pure (translation.physicalAddress, read.value.setWidth 16)

/-- `bus_->instruction_cacheable(..)`, asked only if the cache may be used. -/
def cacheable (mayUse : Bool) (address : PhysAddr) : Instr β Bool :=
  Exec.lift fun fabric => (mayUse && CpuBus.instructionCacheable fabric.bus address, fabric)

def insertInstructionCache (state : CpuSnapshot) (instruction : BitVec 32)
    (decoded : DecodedInstruction) : Instr β Unit :=
  Exec.lift fun fabric =>
    ((), { fabric with
      instructionCache := fabric.instructionCache.insert indexing state.pc
        (sanitizeSatp state.supervisorCsrs.satp) state.privilege instruction decoded })

/-- Read and decode an instruction: its bits, its decoding, and whether all of it
lies in cacheable memory. -/
def fetchInstruction (mode : ExecutionMode) (mayUse : Bool) (state : CpuSnapshot) :
    Instr β (BitVec 32 × DecodedInstruction × Bool) := do
  let first ← fetchHalfword mode state state.pc 0
  let low := first.2.setWidth 32
  let firstCacheable ← cacheable mayUse first.1
  if (low &&& 0x3) ≠ 0x3 then do
    let decoded ← decode mode low 2
    pure (low, decoded, firstCacheable)
  else do
    let second ← fetchHalfword mode state (state.pc + 2) low
    let instruction := low ||| (second.2.setWidth 32 <<< 16)
    let secondCacheable ← cacheable firstCacheable second.1
    let decoded ← decode mode instruction 4
    pure (instruction, decoded, secondCacheable)

/-- The fetch when the instruction cache does not serve it. -/
def fetchMiss (mode : ExecutionMode) (mayUse : Bool) (state : CpuSnapshot) :
    Instr β (BitVec 32 × DecodedInstruction) := do
  let fetched ← fetchInstruction mode mayUse state
  if fetched.2.1.valid && fetched.2.2 then do
    insertInstructionCache state fetched.1 fetched.2.1
    pure (fetched.1, fetched.2.1)
  else pure (fetched.1, fetched.2.1)

def lookupInstructionCache (mayUse : Bool) (state : CpuSnapshot) :
    Instr β (Option (InstructionCacheEntry 64 DecodedInstruction)) :=
  Exec.lift fun fabric =>
    (if mayUse then
      fabric.instructionCache.lookup indexing state.pc (sanitizeSatp state.supervisorCsrs.satp)
        state.privilege
    else none, fabric)

/-- A page-crossing instruction is never served from the cache. -/
def mayUseInstructionCache (mode : ExecutionMode) (pc : Xlen) : Bool :=
  mode == .fast && (pc &&& 0xFFF) != 0xFFE

def fetch (mode : ExecutionMode) (state : CpuSnapshot) :
    Instr β (BitVec 32 × DecodedInstruction) := do
  let mayUse := mayUseInstructionCache mode state.pc
  match ← lookupInstructionCache mayUse state with
  | some entry => pure (entry.instruction, entry.decoded)
  | none => fetchMiss mode mayUse state

def illegal (instruction : BitVec 32) : Instr β α :=
  Exec.stop ⟨.illegalInstruction, instruction, instruction.setWidth 64, .none⟩

/-- Translate the address of a data access; `loads` tells which causes apply. -/
def dataAddress (mode : ExecutionMode) (state : CpuSnapshot) (instruction : BitVec 32)
    (address : Xlen) (width : AccessWidth) (loads : Bool) : Instr β PhysAddr :=
  if !aligned address width then
    Exec.stop ⟨if loads then .loadAddressMisaligned else .storeAddressMisaligned, instruction,
      address, .misaligned⟩
  else do
    let translation ← translate mode state address (if loads then .load else .store)
    if !translation.isReady then
      let cause : ExceptionCause :=
        if loads then
          if translation.status = .pageFault then .loadPageFault else .loadAccessFault
        else if translation.status = .pageFault then .storePageFault else .storeAccessFault
      Exec.stop ⟨cause, instruction, address, translation.busFault⟩
    else pure translation.physicalAddress

/-- A load of any width, through the translation and the bus. -/
def loadValue (mode : ExecutionMode) (state : CpuSnapshot) (instruction : BitVec 32)
    (address : Xlen) (width : AccessWidth) : Instr β (BitVec 64) := do
  let physicalAddress ← dataAddress mode state instruction address width true
  let loaded ← onBus (CpuBus.read physicalAddress width .load)
  if !loaded.ok then Exec.stop ⟨.loadAccessFault, instruction, address, loaded.fault⟩
  else pure loaded.value

/-- A store of any width. -/
def storeValue (mode : ExecutionMode) (state : CpuSnapshot) (instruction : BitVec 32)
    (address : Xlen) (width : AccessWidth) (value : BitVec 64) : Instr β Unit := do
  let physicalAddress ← dataAddress mode state instruction address width false
  let fault ← onBus (CpuBus.write physicalAddress width value .store)
  if fault ≠ .none then Exec.stop ⟨.storeAccessFault, instruction, address, fault⟩
  else pure ()

def amoOperation : InstructionKind → AmoOperation
  | .amoAddW | .amoAddD => .add
  | .amoXorW | .amoXorD => .xor
  | .amoAndW | .amoAndD => .and
  | .amoOrW | .amoOrD => .or
  | .amoMinW | .amoMinD => .min
  | .amoMaxW | .amoMaxD => .max
  | .amoMinuW | .amoMinuD => .minUnsigned
  | .amoMaxuW | .amoMaxuD => .maxUnsigned
  | _ => .swap

/-- The bus call of an atomic instruction and the register value it gives. -/
def atomicAccess (kind : InstructionKind) (doubleword : Bool) (hart : BitVec 32)
    (physicalAddress : PhysAddr) (rs2 : Xlen) : StateM β (BusFault × Xlen) :=
  match kind with
  | .lrW | .lrD =>
    if doubleword then do
      let result ← CpuBus.loadReservedDoubleword hart physicalAddress
      pure (result.fault, result.value)
    else do
      let result ← CpuBus.loadReservedWord hart physicalAddress
      pure (result.fault, signExtendWord result.value)
  | .scW | .scD =>
    if doubleword then do
      let result ← CpuBus.storeConditionalDoubleword hart physicalAddress rs2
      pure (result.fault, if result.succeeded then 0 else 1)
    else do
      let result ← CpuBus.storeConditionalWord hart physicalAddress (rs2.setWidth 32)
      pure (result.fault, if result.succeeded then 0 else 1)
  | _ =>
    if doubleword then do
      let result ← CpuBus.atomicDoubleword hart physicalAddress (amoOperation kind) rs2
      pure (result.fault, result.originalValue)
    else do
      let result ←
        CpuBus.atomicWord hart physicalAddress (amoOperation kind) (rs2.setWidth 32)
      pure (result.fault, signExtendWord (result.originalValue.setWidth 64))

/-- The atomic arms of the switch. -/
def executeAtomic (mode : ExecutionMode) (state : CpuSnapshot) (instruction : BitVec 32)
    (decoded : DecodedInstruction) : Instr β Xlen := do
  let doubleword := ((instruction >>> 12) &&& 0x7) == 3
  let width := if doubleword then AccessWidth.doubleWord else .word
  let address := state.registers decoded.rs1
  let loadReserved := decoded.kind == .lrW || decoded.kind == .lrD
  let physicalAddress ← dataAddress mode state instruction address width loadReserved
  let (fault, value) ← onBus (atomicAccess decoded.kind doubleword (state.hartId.setWidth 32)
    physicalAddress (state.registers decoded.rs2))
  if fault ≠ .none then
    Exec.stop ⟨if loadReserved then .loadAccessFault else .storeAccessFault, instruction, address,
      fault⟩
  else pure value

/-- Width, number of bits and signedness of a load. -/
def loadShape : InstructionKind → AccessWidth × Nat × Bool
  | .lh => (.halfWord, 16, true)
  | .lw => (.word, 32, true)
  | .ld => (.doubleWord, 64, true)
  | .lbu => (.byte, 8, false)
  | .lhu => (.halfWord, 16, false)
  | .lwu => (.word, 32, false)
  | _ => (.byte, 8, true)

def executeLoad (mode : ExecutionMode) (state : CpuSnapshot) (instruction : BitVec 32)
    (decoded : DecodedInstruction) : Instr β Xlen := do
  let (width, valueWidth, signedLoad) := loadShape decoded.kind
  let address := state.registers decoded.rs1 + decoded.immediate
  let value ← loadValue mode state instruction address width
  pure (if signedLoad then signExtend value valueWidth else value)

def storeWidth : InstructionKind → AccessWidth
  | .sh => .halfWord
  | .sw => .word
  | .sd => .doubleWord
  | _ => .byte

def executeStore (mode : ExecutionMode) (state : CpuSnapshot) (instruction : BitVec 32)
    (decoded : DecodedInstruction) : Instr β Unit :=
  storeValue mode state instruction (state.registers decoded.rs1 + decoded.immediate)
    (storeWidth decoded.kind) (state.registers decoded.rs2)

def executeFloatingLoad (mode : ExecutionMode) (state : CpuSnapshot) (instruction : BitVec 32)
    (decoded : DecodedInstruction) : Instr β Xlen :=
  if !floatingPointEnabled state then illegal instruction
  else do
    let width := if decoded.kind = .flw then AccessWidth.word else .doubleWord
    let value ← loadValue mode state instruction
      (state.registers decoded.rs1 + decoded.immediate) width
    pure (if decoded.kind = .flw then 0xFFFFFFFF00000000 ||| (value.setWidth 32).setWidth 64
      else value)

def executeFloatingStore (mode : ExecutionMode) (state : CpuSnapshot) (instruction : BitVec 32)
    (decoded : DecodedInstruction) : Instr β Unit :=
  if !floatingPointEnabled state then illegal instruction
  else
    let width := if decoded.kind = .fsw then AccessWidth.word else .doubleWord
    storeValue mode state instruction (state.registers decoded.rs1 + decoded.immediate) width
      (state.floatingPoint.registers decoded.rs2)

/-- `decoded.kind` is one of the six CSR instructions. -/
def executeCsr (state : CpuSnapshot) (instruction : BitVec 32) (decoded : DecodedInstruction) :
    Instr β (Xlen × Option (CsrAddress × Xlen)) := do
  let time ← Exec.lift fun fabric => (CpuBus.readTime fabric.bus, fabric)
  let kind := decoded.kind
  let immediate := kind == .csrrwi || kind == .csrrsi || kind == .csrrci
  let setOrClear := kind == .csrrs || kind == .csrrc || kind == .csrrsi || kind == .csrrci
  let source := if immediate then decoded.immediate else state.registers decoded.rs1
  let readRequired := setOrClear || decoded.rd != 0
  let writeRequired :=
    !setOrClear || (if immediate then decoded.immediate != 0 else decoded.rs1 != 0)
  let read := CsrFile.read state time decoded.csr state.privilege
  if writeRequired && CsrFile.validateWrite state decoded.csr state.privilege != .ready then
    illegal instruction
  else if readRequired && !read.ready then illegal instruction
  else
    let oldValue := if readRequired then read.value else 0
    let baseValue :=
      if setOrClear then CsrFile.readForWrite state decoded.csr oldValue else oldValue
    let newValue :=
      if kind = .csrrs ∨ kind = .csrrsi then baseValue ||| source
      else if kind = .csrrc ∨ kind = .csrrci then baseValue &&& ~~~source
      else source
    pure (oldValue, if writeRequired then some (decoded.csr, newValue) else none)

end

end RvEmulator.Core64
