import Mathlib.Logic.Function.Basic
import RvEmulator.Mmu.Paging

/-! The four-way, 64-entry TLB that `Sv32Tlb` and `Sv39Tlb` both are. Entries
keep the leaf's permission bits, so a hit repeats every check of the walk. -/

namespace RvEmulator

structure TlbEntry (w : Nat) where
  valid : Bool := false
  global : Bool := false
  pageShift : BitVec 8 := 0
  asid : BitVec 16 := 0
  rootPpn : BitVec w := 0
  virtualPage : BitVec w := 0
  physicalPage : PhysAddr := 0
  pte : BitVec w := 0
deriving DecidableEq

structure Tlb (w : Nat) where
  entries : Fin 64 → TlbEntry w := fun _ => {}
  replacementWays : Fin 16 → BitVec 8 := fun _ => 0

namespace Tlb

/-- The array index of a way of a set. -/
def slot (set : Fin 16) (way : Fin 4) : Fin 64 := ⟨set * 4 + way, by omega⟩

def setFor (virtualPage : BitVec w) : Fin 16 :=
  ⟨(virtualPage ^^^ (virtualPage >>> 6) ^^^ (virtualPage >>> 12)).toNat % 16,
    Nat.mod_lt _ (by decide)⟩

/-- The checks that one candidate entry has to pass. -/
def hits (paging : Paging w) (context : TranslationContext w) (access : MemoryAccessType)
    (shift : BitVec 8) (virtualPage : BitVec w) (entry : TlbEntry w) : Bool :=
  entry.valid && entry.pageShift == shift && entry.virtualPage == virtualPage &&
    (entry.global ||
      (entry.asid == paging.asid context.satp &&
        entry.rootPpn == (context.satp &&& paging.satpPpn))) &&
    privilegeAllows entry.pte context.privilege access context.mstatus &&
    flag entry.pte PteBits.accessed && (access != .store || flag entry.pte PteBits.dirty)

def findAtShift (paging : Paging w) (tlb : Tlb w) (context : TranslationContext w)
    (virtualAddress : BitVec w) (access : MemoryAccessType) (shift : BitVec 8) :
    Option (TlbEntry w) :=
  let virtualPage := virtualAddress >>> shift.toNat
  (List.finRange 4).findSome? fun way =>
    let entry := tlb.entries (slot (setFor virtualPage) way)
    if hits paging context access shift virtualPage entry then some entry else none

def lookup (paging : Paging w) (tlb : Tlb w) (context : TranslationContext w)
    (virtualAddress : BitVec w) (access : MemoryAccessType) : Option (TlbEntry w) :=
  paging.shifts.findSome? (findAtShift paging tlb context virtualAddress access)

/-- Whether `insert` may take a way without evicting: it is free, or it holds
the same translation. -/
def reusable (candidate entry : TlbEntry w) : Bool :=
  !candidate.valid ||
    (candidate.pageShift == entry.pageShift && candidate.virtualPage == entry.virtualPage &&
      candidate.global == entry.global &&
      (entry.global || (candidate.asid == entry.asid && candidate.rootPpn == entry.rootPpn)))

/-- The entry that a completed walk leaves behind. -/
def entryFor (paging : Paging w) (context : TranslationContext w) (virtualAddress : BitVec w)
    (physicalAddress : PhysAddr) (metadata : WalkMetadata w) : TlbEntry w :=
  { valid := true
    global := metadata.global
    pageShift := metadata.pageShift
    asid := paging.asid context.satp
    rootPpn := context.satp &&& paging.satpPpn
    virtualPage := virtualAddress >>> metadata.pageShift.toNat
    physicalPage := physicalAddress &&& ~~~(paging.offsetMask metadata.pageShift).setWidth 64
    pte := metadata.pte }

def insert (paging : Paging w) (tlb : Tlb w) (context : TranslationContext w)
    (virtualAddress : BitVec w) (physicalAddress : PhysAddr) (metadata : WalkMetadata w) : Tlb w :=
  let entry := entryFor paging context virtualAddress physicalAddress metadata
  let set := setFor entry.virtualPage
  match (List.finRange 4).find? fun way => reusable (tlb.entries (slot set way)) entry with
  | some way => { tlb with entries := Function.update tlb.entries (slot set way) entry }
  | none =>
    let replacement : Fin 4 :=
      ⟨(tlb.replacementWays set).toNat % 4, Nat.mod_lt _ (by decide)⟩
    { entries := Function.update tlb.entries (slot set replacement) entry
      replacementWays :=
        Function.update tlb.replacementWays set (BitVec.ofNat 8 ((replacement.val + 1) % 4)) }

/-- The cached translation. -/
def translate [CpuBus β] (paging : Paging w) (context : TranslationContext w)
    (virtualAddress : BitVec w) (access : MemoryAccessType) :
    StateM (β × Tlb w) TranslationResult := fun (bus, tlb) =>
  if paging.bare context then (.ready (virtualAddress.setWidth 64), bus, tlb)
  else if !paging.canonical virtualAddress then (.pageFault, bus, tlb)
  else
    match lookup paging tlb context virtualAddress access with
    | some entry =>
      let offset := (virtualAddress &&& paging.offsetMask entry.pageShift).setWidth 64
      (.ready (entry.physicalPage ||| offset), bus, tlb)
    | none =>
      let walked := paging.walkAddress context virtualAddress access bus
      let result := walked.1.1
      if result.isReady then
        (result, walked.2,
          insert paging tlb context virtualAddress result.physicalAddress walked.1.2)
      else (result, walked.2, tlb)

def clear : Tlb w := {}

/-- Whether `sfence_vma` drops an entry. A missing address is `rs1 = x0`, a
missing ASID is `rs2 = x0`. -/
def fenced (virtualAddress : Option (BitVec w)) (asid : Option (BitVec 16))
    (entry : TlbEntry w) : Bool :=
  entry.valid &&
    (match asid with
      | some asid => !entry.global && entry.asid == asid
      | none => true) &&
    (match virtualAddress with
      | some virtualAddress => (virtualAddress >>> entry.pageShift.toNat) == entry.virtualPage
      | none => true)

def sfenceVma (tlb : Tlb w) (virtualAddress : Option (BitVec w)) (asid : Option (BitVec 16)) :
    Tlb w :=
  { tlb with
    entries := fun index =>
      let entry := tlb.entries index
      if fenced virtualAddress asid entry then { entry with valid := false } else entry }

theorem fenced_iff {virtualAddress : Option (BitVec w)} {asid : Option (BitVec 16)}
    {entry : TlbEntry w} :
    fenced virtualAddress asid entry = true ↔
      entry.valid = true ∧
        (∀ number, asid = some number → entry.global = false ∧ entry.asid = number) ∧
        (∀ address, virtualAddress = some address →
          address >>> entry.pageShift.toNat = entry.virtualPage) := by
  cases virtualAddress <;> cases asid <;> simp [fenced, and_assoc]

/-! What the operations do to the set of entries. -/

theorem mem_of_lookup {paging : Paging w} {tlb : Tlb w} {context : TranslationContext w}
    {virtualAddress : BitVec w} {access : MemoryAccessType} {entry : TlbEntry w}
    (found : lookup paging tlb context virtualAddress access = some entry) :
    ∃ index, tlb.entries index = entry ∧
      hits paging context access entry.pageShift
        (virtualAddress >>> entry.pageShift.toNat) entry = true := by
  obtain ⟨shift, _, atShift⟩ := List.exists_of_findSome?_eq_some found
  obtain ⟨way, _, atWay⟩ := List.exists_of_findSome?_eq_some atShift
  simp only [Option.ite_none_right_eq_some, Option.some.injEq] at atWay
  obtain ⟨hit, same⟩ := atWay
  have sameShift : entry.pageShift = shift := by
    rw [same] at hit
    simp only [hits, Bool.and_eq_true, beq_iff_eq] at hit
    exact hit.1.1.1.1.1.2
  refine ⟨_, same, ?_⟩
  rw [sameShift, ← same]
  exact hit

/-- An insertion changes at most one slot, to the entry of the walk inserted. -/
theorem entries_of_insert (paging : Paging w) (tlb : Tlb w) (context : TranslationContext w)
    (virtualAddress : BitVec w) (physicalAddress : PhysAddr) (metadata : WalkMetadata w)
    (index : Fin 64) :
    (insert paging tlb context virtualAddress physicalAddress metadata).entries index =
        tlb.entries index ∨
      (insert paging tlb context virtualAddress physicalAddress metadata).entries index =
        entryFor paging context virtualAddress physicalAddress metadata := by
  have updated : ∀ (place : Fin 64) (entry : TlbEntry w),
      Function.update tlb.entries place entry index = tlb.entries index ∨
        Function.update tlb.entries place entry index = entry := by
    intro place entry
    by_cases here : index = place
    · right
      rw [here, Function.update_self]
    · left
      rw [Function.update_of_ne here]
  unfold insert
  dsimp only
  split
  · exact updated _ _
  · exact updated _ _

/-- A fence leaves an entry as it was or makes it invalid, as `fenced` says. -/
theorem entries_of_sfenceVma (tlb : Tlb w) (virtualAddress : Option (BitVec w))
    (asid : Option (BitVec 16)) (index : Fin 64)
    (valid : ((tlb.sfenceVma virtualAddress asid).entries index).valid = true) :
    (tlb.sfenceVma virtualAddress asid).entries index = tlb.entries index ∧
      fenced virtualAddress asid (tlb.entries index) = false := by
  simp only [sfenceVma] at valid ⊢
  split at valid
  · cases valid
  · rename_i kept
    simp only [Bool.not_eq_true] at kept
    simp [kept]

end Tlb

end RvEmulator
