import RvEmulator.Common.Hart

/-! The page walk that `rv32` and `rv64` both implement. Where the two bodies
differ (field widths, entry sizes, page sizes) they read a `Paging` record. -/

namespace RvEmulator

inductive MemoryAccessType where
  | instructionFetch | load | store
deriving DecidableEq, Repr

inductive TranslationStatus where
  | ready | pageFault | accessFault
deriving DecidableEq, Repr

structure TranslationResult where
  status : TranslationStatus := .accessFault
  physicalAddress : PhysAddr := 0
  busFault : BusFault := .none
deriving DecidableEq, Repr

namespace TranslationResult

def isReady (result : TranslationResult) : Bool := result.status == .ready

def ready (physicalAddress : PhysAddr) : TranslationResult :=
  { status := .ready, physicalAddress, busFault := .none }

def pageFault : TranslationResult :=
  { status := .pageFault, physicalAddress := 0, busFault := .none }

def accessFault (fault : BusFault) : TranslationResult :=
  { status := .accessFault, physicalAddress := 0, busFault := fault }

end TranslationResult

/-! Bits of a page-table entry, at the same positions in Sv32 and Sv39. -/
namespace PteBits

def valid : BitVec w := 1#w <<< 0
def read : BitVec w := 1#w <<< 1
def write : BitVec w := 1#w <<< 2
def execute : BitVec w := 1#w <<< 3
def user : BitVec w := 1#w <<< 4
def global : BitVec w := 1#w <<< 5
def accessed : BitVec w := 1#w <<< 6
def dirty : BitVec w := 1#w <<< 7

end PteBits

/-- What a virtual-memory scheme fixes: the shape of `satp`, of a table and of
an entry, and the page sizes in the order a TLB lookup tries them. -/
structure Paging (w : Nat) where
  levels : Nat
  width : AccessWidth
  satpMode : BitVec w
  satpPpn : BitVec w
  asid : BitVec w → BitVec 16
  entryAddress : BitVec w → Nat → PhysAddr → PhysAddr
  reserved : BitVec w
  nextTable : BitVec w → PhysAddr
  misaligned : Nat → BitVec w → Bool
  physicalAddress : Nat → BitVec w → BitVec w → PhysAddr
  leafShift : Nat → BitVec 8
  offsetMask : BitVec 8 → BitVec w
  shifts : List (BitVec 8)
  canonical : BitVec w → Bool

/-- What a translation reads of the processor state: the sanitized `satp`, the
effective privilege of the access, and `mstatus` for SUM and MXR. -/
structure TranslationContext (w : Nat) where
  satp : BitVec w
  privilege : PrivilegeMode
  mstatus : BitVec w
deriving DecidableEq

structure WalkMetadata (w : Nat) where
  pte : BitVec w := 0
  pageShift : BitVec 8 := 0
  global : Bool := false
deriving DecidableEq

/-- Whether a leaf's permission bits admit an access. -/
def privilegeAllows (pte : BitVec w) (privilege : PrivilegeMode) (access : MemoryAccessType)
    (mstatus : BitVec w) : Bool :=
  let userPage := flag pte PteBits.user
  if privilege == .user && !userPage then false
  else if privilege == .supervisor && userPage && access == .instructionFetch then false
  else if privilege == .supervisor && userPage && !flag mstatus MstatusBits.sum then false
  else
    match access with
    | .instructionFetch => flag pte PteBits.execute
    | .load =>
        flag pte PteBits.read || (flag mstatus MstatusBits.mxr && flag pte PteBits.execute)
    | .store => flag pte PteBits.write

/-- The entry with the bits that an access sets in it. -/
def updatedPte (pte : BitVec w) (access : MemoryAccessType) : BitVec w :=
  if access = .store then (pte ||| PteBits.accessed) ||| PteBits.dirty
  else pte ||| PteBits.accessed

namespace Paging

variable (paging : Paging w)

def tableAddress (satp : BitVec w) : PhysAddr := ((satp &&& paging.satpPpn).setWidth 64) <<< 12

section

variable [CpuBus β]

/-- The end of a walk at a leaf: check the permissions, set the accessed and
dirty bits in memory if they are not yet set, and form the physical address. -/
def finishWalk (context : TranslationContext w) (virtualAddress : BitVec w)
    (access : MemoryAccessType) (level : Nat) (pteAddress : PhysAddr) (pte : BitVec w)
    (inheritedGlobal : Bool) : StateM β (TranslationResult × WalkMetadata w) :=
  if paging.misaligned level pte ||
      !privilegeAllows pte context.privilege access context.mstatus then
    pure (.pageFault, {})
  else
    let updated := updatedPte pte access
    let metadata : WalkMetadata w :=
      { pte := updated
        pageShift := paging.leafShift level
        global := inheritedGlobal || flag updated PteBits.global }
    let result : TranslationResult := .ready (paging.physicalAddress level pte virtualAddress)
    if updated ≠ pte then do
      let fault ← CpuBus.write pteAddress paging.width (updated.setWidth 64) .pageTableWalk
      if fault ≠ .none then pure (.accessFault fault, {}) else pure (result, metadata)
    else pure (result, metadata)

/-- The loop of the walk, from a level down to level 0. -/
def walkFrom (context : TranslationContext w) (virtualAddress : BitVec w)
    (access : MemoryAccessType) :
    Nat → PhysAddr → Bool → StateM β (TranslationResult × WalkMetadata w)
  | 0, _, _ => pure (.pageFault, {})
  | level + 1, tableAddress, inheritedGlobal => do
    let pteAddress := paging.entryAddress virtualAddress level tableAddress
    let readResult ← CpuBus.read pteAddress paging.width .pageTableWalk
    if !readResult.ok then pure (.accessFault readResult.fault, {})
    else
      let pte : BitVec w := readResult.value.setWidth w
      let readable := flag pte PteBits.read
      let executable := flag pte PteBits.execute
      if !flag pte PteBits.valid || (!readable && flag pte PteBits.write) ||
          flag pte paging.reserved then
        pure (.pageFault, {})
      else if !readable && !executable then
        if flag pte (PteBits.user ||| PteBits.accessed ||| PteBits.dirty) || level == 0 then
          pure (.pageFault, {})
        else
          walkFrom context virtualAddress access level (paging.nextTable pte)
            (inheritedGlobal || flag pte PteBits.global)
      else
        paging.finishWalk context virtualAddress access level pteAddress pte inheritedGlobal

def walkAddress (context : TranslationContext w) (virtualAddress : BitVec w)
    (access : MemoryAccessType) : StateM β (TranslationResult × WalkMetadata w) :=
  paging.walkFrom context virtualAddress access paging.levels
    (paging.tableAddress context.satp) false

def bare (context : TranslationContext w) : Bool :=
  context.privilege == .machine || (context.satp &&& paging.satpMode) == 0

/-- The uncached translation. -/
def translateAddress (context : TranslationContext w) (virtualAddress : BitVec w)
    (access : MemoryAccessType) : StateM β TranslationResult :=
  if paging.bare context then pure (.ready (virtualAddress.setWidth 64))
  else if !paging.canonical virtualAddress then pure .pageFault
  else Prod.fst <$> paging.walkAddress context virtualAddress access

end

end Paging

end RvEmulator
