import RvEmulator.Mmu.Fabric
import RvEmulator.Mmu.Fetching

/-! How a core and one in the reference mode over a recording bus correspond within a
step, as long as the recorded run is disciplined. -/

namespace RvEmulator

open Library

variable {β D : Type} [CpuBus β]

/-- Recordings grow, and those that end disciplined were so all along. -/
def CoreFabric.guard (paging : Paging w) (ram : PhysAddr → Prop) (satps : List (BitVec w)) :
    Exec.Guard (CoreFabric w D (Recorded w β)) where
  later before after := before.bus.Grown after.bus
  good reference := Disciplined paging ram satps reference.bus.log
  refl _ := .refl
  trans := Recorded.Grown.trans
  earlier grown disciplined := disciplined.earlier grown

/-- What the caches hold after an instruction, should it have been a FENCE.I, or an
SFENCE.VMA of everything. -/
structure CoreFabric.Emptied (fenceI everything : Prop) (fabric : CoreFabric w D β) : Prop where
  fenceI : fenceI → fabric.instructionCache.Vacant
  sfenceVma : everything → fabric.instructionCache.Vacant ∧
    ∀ index, (fabric.tlb.entries index).valid = false

omit [CpuBus β] in
theorem CoreFabric.Emptied.of_other {fenceI everything : Prop} {fabric : CoreFabric w D β}
    (notFenceI : ¬fenceI) (notSfence : ¬everything) : fabric.Emptied fenceI everything where
  fenceI is := absurd is notFenceI
  sfenceVma is := absurd is notSfence

/-- What two cores are compared under: the paging and the decoder of both, which
instructions a cache may keep, and what a run may reach. -/
structure Setting (w : Nat) (D β : Type) [CpuBus β] where
  paging : Paging w
  lawful : LawfulPaging paging
  direct : BitVec 32 → BitVec 8 → D
  admitted : D → Prop
  quiet : QuietBus β
  ram : PhysAddr → Prop
  satps : List (BitVec w)

namespace Setting

variable (setting : Setting w D β)

/-- The bus is the one behind the recording, and the caches hold what the recording
explains. Of the reference fabric only the bus matters. -/
structure Agrees (fabric : CoreFabric w D β) (reference : CoreFabric w D (Recorded w β)) : Prop where
  bus : setting.quiet.same fabric.bus reference.bus.bus
  tlb : fabric.tlb.Coherent setting.paging setting.satps reference.bus
  decodeCache : fabric.decodeCache.Faithful setting.direct
  instructionCache : fabric.instructionCache.Coherent setting.paging setting.ram setting.direct
    reference.bus
  admitted : fabric.instructionCache.Sound fun _ decoded => setting.admitted decoded

/-- A fabric and the recording one that it follows, in a step under `satp`. -/
structure Related (satp : BitVec w) (fabric : CoreFabric w D β)
    (reference : CoreFabric w D (Recorded w β)) : Prop extends Agrees setting fabric reference where
  satp : reference.bus.satp = satp

/-- The first computation returns what the second does, and the fabrics stay
related. -/
def Mirrors (satp : BitVec w) (x : Exec (CoreFabric w D β) ε α)
    (y : Exec (CoreFabric w D (Recorded w β)) ε α) : Prop :=
  Exec.Refines (CoreFabric.guard setting.paging setting.ram setting.satps) (setting.Related satp) x y
    (fun a b fabric reference => a = b ∧ setting.Related satp fabric reference)
    (setting.Related satp)

variable {setting} {satp : BitVec w}

namespace Agrees

variable {fabric : CoreFabric w D β} {reference : CoreFabric w D (Recorded w β)}

/-- Caches that were emptied agree with any recording of the bus. -/
theorem cleared [Inhabited D] (agrees : setting.Agrees fabric reference) :
    setting.Agrees
      { fabric with
        tlb := {}, decodeCache := .clear, instructionCache := fabric.instructionCache.clear }
      reference where
  bus := agrees.bus
  tlb := .of_invalid fun _ => rfl
  decodeCache := DecodeCache.faithful_clear _
  instructionCache := agrees.instructionCache.clear.2
  admitted := agrees.admitted.clear

/-- The caches of a new core are empty. -/
theorem initial [Inhabited D] {bus : β} (equal : setting.quiet.same bus reference.bus.bus) :
    setting.Agrees ⟨bus, {}, .clear, InstructionCache.initial.clear⟩ reference :=
  have started : setting.Agrees ⟨bus, {}, .clear, .initial⟩ reference :=
    ⟨equal, .of_invalid fun _ => rfl, DecodeCache.faithful_clear _, .initial _, .initial⟩
  started.cleared

theorem of_bus {other : CoreFabric w D (Recorded w β)} (agrees : setting.Agrees fabric reference)
    (same : other.bus = reference.bus) : setting.Agrees fabric other := by
  obtain ⟨bus, tlb, decodeCache, instructionCache, admitted⟩ := agrees
  rw [← same] at bus tlb instructionCache
  exact ⟨bus, tlb, decodeCache, instructionCache, admitted⟩

theorem vacant_clear [Inhabited D] (agrees : setting.Agrees fabric reference) :
    fabric.instructionCache.clear.Vacant := by
  obtain ⟨vacant, _⟩ : _ ∧ InstructionCache.Coherent _ _ _ reference.bus _ :=
    agrees.instructionCache.clear
  exact vacant

/-- A fence that has emptied the caches can be noted. -/
theorem noteFence {fenceI everything : Prop} [Decidable fenceI] [Decidable everything]
    (agrees : setting.Agrees fabric reference) (emptied : fabric.Emptied fenceI everything) :
    setting.Agrees fabric
      { reference with
        bus :=
          { reference.bus with
            log := (if fenceI then [.fenceI] else if everything then [.sfenceVma] else []) ++
              reference.bus.log } } := by
  split
  · rename_i is
    exact { agrees with
      tlb := agrees.tlb.fenceI
      instructionCache := agrees.instructionCache.of_vacant (emptied.fenceI is) }
  split
  · rename_i is
    obtain ⟨vacant, invalid⟩ := emptied.sfenceVma is
    exact { agrees with
      tlb := .of_invalid invalid
      instructionCache := agrees.instructionCache.of_vacant vacant }
  · exact agrees

theorem emptied_fenceI [Inhabited D] {fenceI everything : Prop}
    (agrees : setting.Agrees fabric reference) (notSfence : ¬everything) :
    CoreFabric.Emptied fenceI everything
      { fabric with decodeCache := .clear, instructionCache := fabric.instructionCache.clear } where
  fenceI _ := agrees.vacant_clear
  sfenceVma is := absurd is notSfence

theorem emptied_sfenceVma [Inhabited D] {fenceI everything : Prop}
    (agrees : setting.Agrees fabric reference) (indexing : CacheIndexing w)
    {virtualAddress : Option (BitVec w)} {asid : Option (BitVec 16)} (notFenceI : ¬fenceI)
    (operands : everything → (virtualAddress, asid) = (none, none)) :
    CoreFabric.Emptied fenceI everything
      { fabric with
        tlb := fabric.tlb.sfenceVma virtualAddress asid
        instructionCache := fabric.instructionCache.sfence indexing virtualAddress asid } where
  fenceI is := absurd is notFenceI
  sfenceVma is := by
    cases operands is
    exact ⟨agrees.vacant_clear, Tlb.valid_sfenceVma fabric.tlb⟩

end Agrees

namespace Related

variable {fabric after : CoreFabric w D β} {reference later : CoreFabric w D (Recorded w β)}

theorem of_bus (related : setting.Related satp fabric reference)
    (same : later.bus = reference.bus) : setting.Related satp fabric later :=
  ⟨related.toAgrees.of_bus same, same ▸ related.satp⟩

theorem grown (related : setting.Related satp fabric reference)
    (grown : reference.bus.Grown later.bus) (bus : setting.quiet.same after.bus later.bus.bus)
    (tlb : after.tlb = fabric.tlb) (decodeCache : after.decodeCache = fabric.decodeCache)
    (instructionCache : after.instructionCache = fabric.instructionCache) :
    setting.Related satp after later where
  bus := bus
  satp := grown.satp.trans related.satp
  tlb := by
    rw [tlb]
    exact related.tlb.later setting.lawful grown
  decodeCache := by
    rw [decodeCache]
    exact related.decodeCache
  instructionCache := by
    rw [instructionCache]
    exact related.instructionCache.later setting.lawful grown
  admitted := by
    rw [instructionCache]
    exact related.admitted

theorem fenceI [Inhabited D] (related : setting.Related satp fabric reference) :
    setting.Related satp
      { fabric with decodeCache := .clear, instructionCache := fabric.instructionCache.clear }
      reference :=
  { related with
    decodeCache := DecodeCache.faithful_clear _
    instructionCache := related.instructionCache.clear.2
    admitted := related.admitted.clear }

theorem sfenceVma [Inhabited D] (related : setting.Related satp fabric reference)
    (indexing : CacheIndexing w) (virtualAddress : Option (BitVec w)) (asid : Option (BitVec 16)) :
    setting.Related satp
      { fabric with
        tlb := fabric.tlb.sfenceVma virtualAddress asid
        instructionCache := fabric.instructionCache.sfence indexing virtualAddress asid }
      reference :=
  { related with
    tlb := related.tlb.sfenceVma _ _
    instructionCache := related.instructionCache.sfence indexing _ _
    admitted := related.admitted.sfence _ _ }

end Related

namespace Mirrors

theorem pure (a : α) : setting.Mirrors (ε := ε) satp (pure a) (pure a) :=
  Exec.Refines.pure fun _ _ related => ⟨rfl, related⟩

theorem stop (e : ε) : setting.Mirrors (α := α) satp (Exec.stop e) (Exec.stop e) :=
  Exec.Refines.stop fun _ _ related => related

theorem bind {x : Exec (CoreFabric w D β) ε α} {y : Exec (CoreFabric w D (Recorded w β)) ε α}
    {f : α → Exec (CoreFabric w D β) ε γ} {g : α → Exec (CoreFabric w D (Recorded w β)) ε γ}
    (first : setting.Mirrors satp x y) (next : ∀ a, setting.Mirrors satp (f a) (g a)) :
    setting.Mirrors satp (x >>= f) (y >>= g) :=
  Exec.Refines.bind_same first next

theorem ite {condition : Prop} [Decidable condition] {x y : Exec (CoreFabric w D β) ε α}
    {x' y' : Exec (CoreFabric w D (Recorded w β)) ε α} (left : setting.Mirrors satp x x')
    (right : setting.Mirrors satp y y') :
    setting.Mirrors satp (if condition then x else y) (if condition then x' else y') := by
  split
  · exact left
  · exact right

/-- Bus methods that answer alike on equal contents. -/
theorem onBus {method : StateM β α} {recording : StateM (Recorded w β) α}
    (grown : ∀ recorded : Recorded w β, recorded.Grown (recording recorded).2)
    (alike : ∀ bus recorded, setting.quiet.same bus recorded.bus →
      (method bus).1 = (recording recorded).1 ∧
        setting.quiet.same (method bus).2 (recording recorded).2.bus) :
    setting.Mirrors (ε := ε) satp (onBus method) (onBus recording) := by
  refine Exec.Refines.lift (fun reference => grown reference.bus) ?_
  intro fabric reference related _
  obtain ⟨answer, same⟩ := alike fabric.bus reference.bus related.bus
  exact ⟨answer, related.grown (grown reference.bus) same rfl rfl rfl⟩

/-- One bus method, with its answer put to use. -/
theorem command (command : BusCommand) (use : command.Response → α) :
    setting.Mirrors (ε := ε) satp
      (RvEmulator.onBus fun bus =>
        (use (CpuBus.perform command bus).1, (CpuBus.perform command bus).2))
      (RvEmulator.onBus fun recorded =>
        (use (record command recorded).1, (record command recorded).2)) := by
  refine onBus (fun _ => .step .refl command) fun bus recorded same => ?_
  obtain ⟨answer, after⟩ := setting.quiet.perform command same
  exact ⟨congrArg use answer, after⟩

theorem read (address : PhysAddr) (width : AccessWidth) (kind : AccessKind) :
    setting.Mirrors (ε := ε) satp (RvEmulator.onBus (CpuBus.read address width kind))
      (RvEmulator.onBus (CpuBus.read address width kind)) :=
  command (.read address width kind) id

theorem write (address : PhysAddr) (width : AccessWidth) (value : BitVec 64) (kind : AccessKind) :
    setting.Mirrors (ε := ε) satp (RvEmulator.onBus (CpuBus.write address width value kind))
      (RvEmulator.onBus (CpuBus.write address width value kind)) :=
  command (.write address width value kind) id

/-- Looking at the fabric where the two look alike. -/
theorem peek {look : CoreFabric w D β → α} {other : CoreFabric w D (Recorded w β) → α}
    (alike : ∀ fabric reference, setting.Related satp fabric reference →
      look fabric = other reference) :
    setting.Mirrors (ε := ε) satp (Exec.lift fun fabric => (look fabric, fabric))
      (Exec.lift fun reference => (other reference, reference)) := by
  refine Exec.Refines.lift (fun _ => .refl) ?_
  intro fabric reference related _
  exact ⟨alike fabric reference related, related⟩

/-! A translation, by a walk or through the TLB. -/

section

variable (setting) (readsBack : setting.paging.ReadsBack setting.quiet)
  (context : TranslationContext w) (current : context.satp = satp) (virtualAddress : BitVec w) (access : MemoryAccessType)

theorem walk : setting.Mirrors (ε := ε) satp
    (RvEmulator.onBus (setting.paging.translateAddress context virtualAddress access))
    (RvEmulator.onBus (setting.paging.translateAddress context virtualAddress access)) := by
  refine onBus (setting.paging.grown_translateAddress context virtualAddress access) ?_
  intro bus recorded same
  obtain ⟨answer, after, _⟩ := setting.paging.translateAddress_recorded setting.quiet context
    virtualAddress access (setting.quiet.self_right same)
  obtain ⟨value, memory⟩ :=
    setting.paging.translateAddress_same setting.quiet context virtualAddress access same
  exact ⟨value.trans answer.symm, after.symm ▸ memory⟩

include readsBack current in
theorem cached : setting.Mirrors (ε := ε) satp
    (Exec.lift fun fabric =>
      let answer := Tlb.translate setting.paging context virtualAddress access
        (fabric.bus, fabric.tlb)
      (answer.1, { fabric with bus := answer.2.1, tlb := answer.2.2 }))
    (RvEmulator.onBus (setting.paging.translateAddress context virtualAddress access)) := by
  have grown : ∀ recorded : Recorded w β, recorded.Grown _ :=
    setting.paging.grown_translateAddress context virtualAddress access
  refine Exec.Refines.lift (fun reference => grown reference.bus) ?_
  intro fabric reference related good
  obtain ⟨answer, same, tlb⟩ := related.tlb.translate setting.lawful readsBack related.bus
    (related.satp.trans current.symm) virtualAddress access good
  exact ⟨answer, ⟨same, tlb, related.decodeCache,
    related.instructionCache.later setting.lawful (grown reference.bus), related.admitted⟩,
    (grown reference.bus).satp.trans related.satp⟩

end

end Mirrors

end Setting

end RvEmulator
